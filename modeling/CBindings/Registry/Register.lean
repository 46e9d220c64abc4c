import CBindings.Registry.Types

/-! Registering declarations: binding their names to native classes, functions, variables and values. Names
that are taken stay as they are, functions apart. -/
namespace CBindings

structure Report where
  registered : List String := []
  skipped : List String := []
  failed : List String := []
deriving DecidableEq, Repr

namespace Register

def registerConstant (c : Constant) : Register Bool := do
  if ← isTaken c.name then return false
  bind c.name (.value c.value)
  modify fun r => { r with index := r.index.add c.value c.name }
  return true

/-- The class that waited for this definition, unless it is of the other kind, or else a new one. -/
def takePending (record : Record) : Register Nat := do
  let r ← get
  let waiting := r.pending.lookup record.name
  modify fun r => { r with pending := r.pending.filter (·.1 != record.name) }
  match waiting with
  | some i => if (r.classes.record i).isUnion == record.isUnion then return i
  | none => pure ()
  onClasses (ClassWork.declare record.name record.isUnion)

def defineMembers (i : Nat) (record : Record) : Register Unit := do
  match record.fields with
  | none => return
  | some fields =>
    let members ← memberTypes fields
    onClasses (ClassWork.setFields i members record.anonymous)

/-- The name is bound before the members are looked at, since they may point to the record. -/
def registerRecord (record : Record) : Register Bool := do
  if ← isTaken record.name then return false
  let i ← takePending record
  bind record.name (.type (.record i))
  tryCatch (defineMembers i record) fun f => do
    modify fun r => { r with names := r.names.erase record.name }
    throw f
  modify fun r => { r with defined := r.defined ++ [record.name] }
  return true

/-- Sets the constructor of zero values, unless a member has its name. -/
def registerConstructor (name : String) : Register Bool := do
  let r ← get
  if !r.defined.contains name then return false
  match r.names.get? name with
  | some (.type (.record i)) =>
    if ((r.classes.record i).fields.getD []).any (·.name == "zero") then
      note ("Skipping " ++ name ++ ".zero(): field named zero")
      return false
    modify fun r => { r with classes := r.classes.update i fun c => { c with hasZero := true } }
    return true
  | _ => return false

def registerEnumerators (e : EnumClass) : List Enumerator → Register Unit
  | [] => return
  | v :: rest => do
    if !(← isTaken v.name) then
      match e.member? v.name with
      | .error f => throw (.enumeration f)
      | .ok (name, value) =>
        bind v.name (.member e name value)
        modify fun r => { r with index := r.index.add (.int v.value) v.name }
    registerEnumerators e rest

/-- Enumerators are bound even if the name of the enumeration is taken. -/
def registerEnumeration (e : Enumeration) : Register Bool := do
  let taken ← isTaken e.name
  match EnumClass.make e.name e.values with
  | .error f => throw (.enumeration f)
  | .ok c =>
    if !taken then bind e.name (.enumeration c)
    registerEnumerators c e.values
    return !taken

/-- A function takes the place of another one that does not accept as many arguments of any type. -/
def registerFunction (f : Function) : Register Bool := do
  if let some existing := (← get).names.get? f.name then
    match existing.staysFor f.parameters.length with
    | .error missed => throw (.misses missed)
    | .ok true =>
      note ("Skipping " ++ f.name ++ ": already defined")
      return false
    | .ok false => write .debug ("Redefining " ++ f.name)
  let result ← nativeType f.result
  let arguments ← parameterTypes f.parameters
  bind f.name (.function (.make f.name f.library result arguments f.variadic
    (f.parameters.map fun p => p.name.getD "")))
  return true

def registerAlias (a : Alias) : Register Bool := do
  if ← isTaken a.name then return false
  match ← nativeType a.target with
  | none => throw (.voidAlias a.name)
  | some t =>
    bind a.name (.type t)
    return true

def registerVariable (v : Variable) : Register Bool := do
  if ← isTaken v.name then return false
  let t ← valueType v.type
  bind v.name (.variable { name := v.name, library := v.library, type := t })
  return true

/-- Whether a declaration was registered, or skipped. -/
def registerOne : Declaration → Register Bool
  | .constant c => registerConstant c
  | .record r => registerRecord r
  | .constructor n => registerConstructor n
  | .enumeration e => registerEnumeration e
  | .function f => registerFunction f
  | .alias a => registerAlias a
  | .variable v => registerVariable v
  | .info _ => return false
  | .stray text => throw (.declaration (.notADeclaration text))

def nameOf (d : Declaration) : Register String :=
  match d.name? with
  | .ok n => return n.getD ""
  | .error f => throw (.declaration f)

def shownText (d : Declaration) : String :=
  match d.text with
  | .ok s => s
  | .error _ => ""

def registerAll : Report → List Declaration → Register Report
  | report, [] => return report
  | report, d :: rest => do
    match d with
    | .info message =>
      note message
      registerAll report rest
    | d =>
      let outcome ← tryCatch (some <$> registerOne d) fun f => do
        if !f.isContained then throw f
        write .warning (f.message ++ " in " ++ shownText d)
        return none
      let name ← nameOf d
      registerAll (match outcome with
        | some true => { report with registered := report.registered ++ [name] }
        | some false => { report with skipped := report.skipped ++ [name] }
        | none => { report with failed := report.failed ++ [name] }) rest

/-- Registers declarations in order, and then binds the index of the constants among them. -/
def register (ds : List Declaration) : Register Report := do
  modify fun r => { r with defined := [], index := {} }
  let report ← registerAll {} ds
  bind constantIndexName (.index (← get).index)
  return report

end Register

end CBindings
