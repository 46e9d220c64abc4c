import CBindings.Path

/-! A small C++ program that prints the values of macros, each as a line `const NAME = VALUE` after a
delimiter. How a value is printed is chosen by its type. -/
namespace CBindings.Probe

def delimiter : List Char := "\n@@cinclude@@".toList

def sourceName : String := "cinclude_probe.cpp"

def binaryName : String := "cinclude_probe"

def standard : String := "-std=c++11"

/-- Lines up to the included headers. -/
def preludeLines : List String :=
  ["#include <stdio.h>",
   "#include <stdint.h>",
   "",
   "static const char cinclude_delimiter[] = \"\\n@@cinclude@@\";",
   "",
   "static void cinclude_emit(const char *cinclude_v) \x7b",
   "    if (!cinclude_v) \x7b fputs(\"None\", stdout); return; \x7d",
   "    fputs(\"b\\\"\", stdout);",
   "    for (const unsigned char *p = (const unsigned char *)cinclude_v; *p; ++p) \x7b",
   "        if (*p == '\"' || *p == '\\\\') printf(\"\\\\%c\", *p);",
   "        else if (*p < 32 || *p > 126) printf(\"\\\\x%02x\", *p);",
   "        else putchar(*p);",
   "    \x7d",
   "    putchar('\"');",
   "\x7d",
   "static void cinclude_emit(char cinclude_v) \x7b printf(\"chr(%d)\", (int)(unsigned char)cinclude_v); \x7d",
   "static void cinclude_emit(signed char cinclude_v) \x7b printf(\"%d\", (int)cinclude_v); \x7d",
   "static void cinclude_emit(unsigned char cinclude_v) \x7b printf(\"%u\", (unsigned)cinclude_v); \x7d",
   "static void cinclude_emit(bool cinclude_v) \x7b fputs(cinclude_v ? \"True\" : \"False\", stdout); \x7d",
   "static void cinclude_emit(short cinclude_v) \x7b printf(\"%d\", (int)cinclude_v); \x7d",
   "static void cinclude_emit(unsigned short cinclude_v) \x7b printf(\"%u\", (unsigned)cinclude_v); \x7d",
   "static void cinclude_emit(int cinclude_v) \x7b printf(\"%d\", cinclude_v); \x7d",
   "static void cinclude_emit(unsigned int cinclude_v) \x7b printf(\"%u\", cinclude_v); \x7d",
   "static void cinclude_emit(long cinclude_v) \x7b printf(\"%ld\", cinclude_v); \x7d",
   "static void cinclude_emit(unsigned long cinclude_v) \x7b printf(\"%lu\", cinclude_v); \x7d",
   "static void cinclude_emit(long long cinclude_v) \x7b printf(\"%lld\", cinclude_v); \x7d",
   "static void cinclude_emit(unsigned long long cinclude_v) \x7b printf(\"%llu\", cinclude_v); \x7d",
   "static void cinclude_emit(float cinclude_v) \x7b printf(\"%.9g\", (double)cinclude_v); \x7d",
   "static void cinclude_emit(double cinclude_v) \x7b printf(\"%.17g\", cinclude_v); \x7d",
   "static void cinclude_emit(long double cinclude_v) \x7b printf(\"%.21Lg\", cinclude_v); \x7d",
   "static void cinclude_emit(const void *cinclude_v) \x7b printf(\"%llu\", (unsigned long long)(uintptr_t)cinclude_v); \x7d",
   "static void cinclude_emit(decltype(nullptr)) \x7b fputs(\"0\", stdout); \x7d",
   "static void cinclude_emit(const wchar_t *) = delete;",
   "template <typename R, typename... A> void cinclude_emit(R (*)(A...)) = delete;",
   "",
   "extern \"C\" \x7b"]

/-- Text between the double quotes of a C string literal. -/
def inCString (text : String) : String :=
  String.ofList (text.toList.flatMap fun c =>
    if c == '\\' || c == '"' then ['\\', c] else if c == '\n' then ['\\', 'n'] else [c])

structure Program where
  headers : List String
  names : List String
deriving DecidableEq, Repr

namespace Program

def includeLine (header : String) : String :=
  "#include \"" ++ inCString (Path.absolute header) ++ "\""

def entry (name : String) : String :=
  "    fputs(cinclude_delimiter, stdout); fputs(\"const " ++ name ++ " = \", stdout); cinclude_emit(" ++ name
    ++ ");"

def linesBeforeEntries (p : Program) : List String :=
  preludeLines ++ p.headers.map includeLine ++ ["\x7d", "", "int main(void) \x7b"]

def lines (p : Program) : List String :=
  p.linesBeforeEntries ++ p.names.map entry ++ ["    fputs(\"\\n\", stdout);", "    return 0;", "\x7d"]

def source (p : Program) : String := Text.concat (p.lines.map (· ++ "\n"))

def numberedFrom (names : List String) (line : Nat) : List (Nat × String) :=
  match names with
  | [] => []
  | n :: rest => (line, n) :: numberedFrom rest (line + 1)

/-- The line of each name's entry, counted from one, so that a diagnostic leads back to the name. -/
def entryLines (p : Program) : List (Nat × String) := numberedFrom p.names (p.linesBeforeEntries.length + 1)

def nameAt? (p : Program) (line : Int) : Option String :=
  (p.entryLines.find? fun e => (e.1 : Int) == line).map (·.2)

def without (p : Program) (names : List String) : Program :=
  { p with names := p.names.filter (!names.contains ·) }

end Program

end CBindings.Probe
