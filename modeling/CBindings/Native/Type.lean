import CBindings.Text.Basic

/-! Types of native data: what memory of a C program holds. Records are classes of their own, known by their
place in a table; all other types are the same if they are built the same way. -/
namespace CBindings

inductive Simple where
  | bool
  | char
  | byte
  | ubyte
  | short
  | ushort
  | int
  | uint
  | long
  | ulong
  | float
  | double
  | longDouble
  | wideChar
  | charPointer
  | voidPointer
deriving DecidableEq, Repr

namespace Simple

def name : Simple → String
  | .bool => "c_bool"
  | .char => "c_char"
  | .byte => "c_byte"
  | .ubyte => "c_ubyte"
  | .short => "c_short"
  | .ushort => "c_ushort"
  | .int => "c_int"
  | .uint => "c_uint"
  | .long => "c_long"
  | .ulong => "c_ulong"
  | .float => "c_float"
  | .double => "c_double"
  | .longDouble => "c_longdouble"
  | .wideChar => "c_wchar"
  | .charPointer => "c_char_p"
  | .voidPointer => "c_void_p"

def all : List Simple :=
  [.bool, .char, .byte, .ubyte, .short, .ushort, .int, .uint, .long, .ulong, .float, .double, .longDouble, .wideChar,
   .charPointer, .voidPointer]

/-- Further names, most of them by width. -/
def otherNames : List (String × Simple) :=
  [("c_longlong", .long), ("c_ulonglong", .ulong), ("c_int8", .byte), ("c_uint8", .ubyte), ("c_int16", .short),
   ("c_uint16", .ushort), ("c_int32", .int), ("c_uint32", .uint), ("c_int64", .long), ("c_uint64", .ulong),
   ("c_size_t", .ulong), ("c_ssize_t", .long)]

def ofName? (name : String) : Option Simple :=
  (all.find? (·.name == name)).or (otherNames.lookup name)

/-- Bytes, which is also the alignment. -/
def size : Simple → Nat
  | .bool | .char | .byte | .ubyte => 1
  | .short | .ushort => 2
  | .int | .uint | .float | .wideChar => 4
  | .long | .ulong | .double | .charPointer | .voidPointer => 8
  | .longDouble => 16

/-- Bit-fields hold integers and truth values. -/
def allowsBits : Simple → Bool
  | .bool | .byte | .ubyte | .short | .ushort | .int | .uint | .long | .ulong => true
  | _ => false

def isSigned : Simple → Bool
  | .byte | .short | .int | .long => true
  | _ => false

end Simple

/-- `function` is a pointer to a function; one without a result returns nothing. -/
inductive NativeType where
  | simple (s : Simple)
  | pointer (target : NativeType)
  | array (element : NativeType) (length : Nat)
  | function (result : Option NativeType) (arguments : List NativeType)
  | record (index : Nat)
deriving Repr, Inhabited

mutual
def NativeType.same : NativeType → NativeType → Bool
  | .simple a, .simple b => a == b
  | .pointer a, .pointer b => a.same b
  | .array a m, .array b n => m == n && a.same b
  | .function none as, .function none bs => sameTypes as bs
  | .function (some a) as, .function (some b) bs => a.same b && sameTypes as bs
  | .record i, .record j => i == j
  | _, _ => false

def sameTypes : List NativeType → List NativeType → Bool
  | [], [] => true
  | a :: as, b :: bs => a.same b && sameTypes as bs
  | _, _ => false
end

namespace NativeType

/-- How many types it is built from. -/
def depth : NativeType → Nat
  | .pointer t => t.depth + 1
  | .array t _ => t.depth + 1
  | _ => 1

end NativeType

/-- C names of the types that need no declaration; `void` has no values. -/
def basicTypes : List (String × Option Simple) :=
  [("void", none), ("bool", some .bool), ("char", some .char), ("signed char", some .byte),
   ("unsigned char", some .ubyte), ("short", some .short), ("unsigned short", some .ushort), ("int", some .int),
   ("unsigned int", some .uint), ("long", some .long), ("unsigned long", some .ulong),
   ("long long", some .long), ("unsigned long long", some .ulong), ("float", some .float),
   ("double", some .double), ("long double", some .longDouble), ("wchar_t", some .wideChar),
   ("char16_t", some .ushort), ("char32_t", some .uint)]

end CBindings
