import CBindings.Location
import CBindings.Text.Basic

/-! C types as declarations mention them. -/
namespace CBindings

structure Parameter (τ : Type) where
  name : Option String
  type : τ
deriving DecidableEq, Repr

structure Field (τ : Type) where
  name : String
  type : τ
  width : Option Int := none
deriving DecidableEq, Repr

/-- A struct or union. Without a field list it is only declared, and can only be pointed to; `anonymous`
lists the fields that stand for nested records without a name. -/
structure RecordOf (τ : Type) where
  name : String
  fields : Option (List (Field τ))
  isUnion : Bool := false
  anonymous : List String := []
  location : Option Location := none
deriving DecidableEq, Repr

/-- `named` is a builtin, a tagged type or an alias, with the type it stands for where that is known;
`record` is a nested record without a name of its own; `stray` is text that is no type. -/
inductive TypeExpr where
  | named (name : String) (qualifiers : List String) (canonical : Option TypeExpr)
  | pointer (pointee : TypeExpr)
  | array (element : TypeExpr) (size : Option Int)
  | function (result : TypeExpr) (parameters : List (Parameter TypeExpr)) (variadic : Bool)
  | record (body : RecordOf TypeExpr)
  | stray (text : String)
deriving Repr, Inhabited

abbrev Record := RecordOf TypeExpr

inductive Tag where
  | struct
  | union
  | enum
deriving DecidableEq, Repr

def Tag.text : Tag → String
  | .struct => "struct"
  | .union => "union"
  | .enum => "enum"

def Tag.all : List Tag := [.struct, .union, .enum]

/-- A type name that starts with a tag and a blank, cut there. -/
def splitTag (name : String) : Option (Tag × String) :=
  match Text.cutAt ' ' name.toList with
  | (head, some (c :: rest)) =>
    (Tag.all.find? fun tag => tag.text.toList == head).map fun tag => (tag, String.ofList (c :: rest))
  | _ => none

def RecordOf.tag {τ : Type} (r : RecordOf τ) : Tag := if r.isUnion then .union else .struct

def RecordOf.text {τ : Type} (r : RecordOf τ) : String := r.tag.text ++ " " ++ r.name

/-- A parameter list as C writes it, with dots for further arguments. -/
def parameterList (parameters : List String) (variadic : Bool) : String :=
  let all := Text.join ", " parameters
  if !variadic then all else if all.isEmpty then "..." else all ++ ", ..."

def parameterText (type : String) (name : Option String) : String :=
  match name with
  | none => type
  | some n => if n.isEmpty then type else type ++ " " ++ n

mutual
def TypeExpr.text : TypeExpr → String
  | .named name qualifiers _ =>
    if qualifiers.isEmpty then name else Text.join " " qualifiers ++ " " ++ name
  | .pointer pointee => pointee.text ++ "*"
  | .array element size => element.text ++ "[" ++ (size.map toString).getD "" ++ "]"
  | .function result parameters variadic =>
    result.text ++ " (*)(" ++ parameterList (parameterTexts parameters) variadic ++ ")"
  | .record body => body.text
  | .stray text => text

def parameterTexts : List (Parameter TypeExpr) → List String
  | [] => []
  | ⟨name, type⟩ :: rest => parameterText type.text name :: parameterTexts rest
end

def Field.text (f : Field TypeExpr) : String :=
  match f.width with
  | none => f.type.text ++ " " ++ f.name
  | some w => f.type.text ++ " " ++ f.name ++ " : " ++ toString w

end CBindings
