import CBindings.Toolchain

/-! Finding the library that parses headers: a file that was asked for, the one that is loaded by default, or
the first that exists where such files are kept. -/
namespace CBindings

/-- What can be loaded, and which files there are for a pattern. -/
structure LibraryPlaces where
  matching : List (String × List String) := []
  hasDefault : Bool := false
  loadable : List String := []

/-- The files for a pattern, from the last name to the first. -/
def LibraryPlaces.newest (p : LibraryPlaces) (pattern : String) : List String :=
  (((p.matching.lookup pattern).getD []).mergeSort fun a b => !(b < a)).reverse

namespace ParserLibrary

def searchPath (t : Toolchain) (p : LibraryPlaces) : List String :=
  if t.isDarwin then
    ["/opt/homebrew/opt/llvm/lib/libclang.dylib"]
      ++ p.newest "/opt/homebrew/Cellar/llvm/*/lib/libclang.dylib"
      ++ ["/usr/local/opt/llvm/lib/libclang.dylib", "/Library/Developer/CommandLineTools/usr/lib/libclang.dylib",
        "/Applications/Xcode.app/Contents/Developer/Toolchains/XcodeDefault.xctoolchain/usr/lib/libclang.dylib"]
  else if t.platform == "linux" then
    p.newest "/usr/lib/llvm-*/lib/libclang.so*"
      ++ ["/usr/lib64/libclang.so", "/usr/lib/libclang.so", "/usr/local/lib/libclang.so"]
  else []

end ParserLibrary

/-- The file that was decided on, if any; the decision is made once. -/
structure ParserLibrary where
  isConfigured : Bool := false
  file : Option String := none
  isOpen : Bool := false
  log : Log := []
deriving Repr

namespace ParserLibrary

def loads (p : LibraryPlaces) : Option String → Bool
  | none => p.hasDefault
  | some file => p.loadable.contains file

/-- Which file to load, before anything was tried. -/
def choose (t : Toolchain) (p : LibraryPlaces) : ParserLibrary → ParserLibrary := fun l =>
  let l := { l with isConfigured := true }
  let wanted := t.setting "CINCLUDE_LIBCLANG" ""
  if !wanted.isEmpty then { l with file := some wanted }
  else if loads p l.file then l
  else match (searchPath t p).find? t.isFile with
    | some path =>
      { l with file := some path, log := l.log ++ [⟨.debug, .parserLibrary, "Using libclang at " ++ path⟩] }
    | none => l

/-- Whether the library can be used. -/
def configure (t : Toolchain) (p : LibraryPlaces) (l : ParserLibrary) : Bool × ParserLibrary :=
  let l := if l.isConfigured then l else l.choose t p
  (loads p l.file, l)

def notFound : Failure := .parse "libclang" "libclang shared library not found (set CINCLUDE_LIBCLANG)"

/-- Opens the library; once is enough. -/
def openLibrary (t : Toolchain) (p : LibraryPlaces) (l : ParserLibrary) : Except Failure Unit × ParserLibrary :=
  if l.isOpen then (.ok (), l)
  else
    let (usable, l) := l.configure t p
    if usable then (.ok (), { l with isOpen := true }) else (.error notFound, l)

end ParserLibrary

end CBindings
