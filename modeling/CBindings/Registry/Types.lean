import CBindings.Registry.Basic

/-! Native types of C types. A record that is mentioned before its definition is a class without members until
then. -/
namespace CBindings.Register

/-- The class of a tag: the one bound to the name, or one that waits for its definition. -/
def recordClass (name : String) (isUnion : Bool) : Register NativeType := do
  let r ← get
  match r.names.get? name with
  | some (.type (.record i)) => return .record i
  | _ =>
    match r.pending.lookup name with
    | some i => return .record i
    | none =>
      let i ← onClasses (ClassWork.declare name isUnion)
      modify fun r => { r with pending := r.pending ++ [(name, i)] }
      return .record i

/-- The native type that a name is bound to. -/
def boundType? (name : String) : Register (Option NativeType) := do
  match (← get).names.get? name with
  | some (.type t) => return some t
  | _ => return none

def isChar : TypeExpr → Bool
  | .named name _ canonical =>
    name == "char" || match canonical with
      | some (.named n _ _) => n == "char"
      | _ => false
  | _ => false

def valued (t : TypeExpr) : Option NativeType → Register NativeType
  | some n => return n
  | none => throw (.voidValue t.text)

mutual
/-- The native type of a C type, none for `void`. -/
def nativeType : TypeExpr → Register (Option NativeType)
  | .named name _ canonical =>
    match splitTag name with
    | some (.struct, bare) => do return some (← recordClass bare false)
    | some (.union, bare) => do return some (← recordClass bare true)
    | some (.enum, _) =>
      match canonical with
      | none => return some (.simple .int)
      | some t => nativeType t
    | none =>
      match basicTypes.lookup name with
      | some s => return s.map .simple
      | none => do
        match ← boundType? name with
        | some t => return some t
        | none =>
          match canonical with
          | some t => nativeType t
          | none => throw (.unknownType name)
  | .pointer pointee => do
    if isChar pointee then return some (.simple .charPointer)
    let target ← tryCatch (nativeType pointee) fun f =>
      if f.isMissingType then return none else throw f
    return some (match target with
      | some t => .pointer t
      | none => .simple .voidPointer)
  | .array element size => do
    let t ← valued element (← nativeType element)
    return some (← onClasses (ClassWork.array t (size.getD 0)))
  | .function result parameters _ => do
    let result ← nativeType result
    let arguments ← parameterTypes parameters
    if argumentLimit < arguments.length then throw (.native (.tooManyArguments arguments.length))
    return some (.function result arguments)
  | .record ⟨name, fields, isUnion, anonymous, _⟩ => do
    let i ← onClasses (ClassWork.declare name isUnion)
    match fields with
    | none => return some (.record i)
    | some fields =>
      let members ← memberTypes fields
      onClasses (ClassWork.setFields i members anonymous)
      return some (.record i)
  | .stray text => throw (.notAType text)

def parameterTypes : List (Parameter TypeExpr) → Register (List NativeType)
  | [] => return []
  | ⟨_, type⟩ :: rest => do
    let t ← valued type (← nativeType type)
    return t :: (← parameterTypes rest)

def memberTypes : List (Field TypeExpr) → Register (List (Field NativeType))
  | [] => return []
  | ⟨name, type, width⟩ :: rest => do
    let t ← valued type (← nativeType type)
    return ⟨name, t, width⟩ :: (← memberTypes rest)
end

/-- The native type of something that has a value. -/
def valueType (t : TypeExpr) : Register NativeType := do valued t (← nativeType t)

end CBindings.Register
