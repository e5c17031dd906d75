/-!
# Words of Go

The words that Go, its builtin types and the generated code take, and the endings of file names that
the Go tool gives a meaning to.
-/

namespace GoBindings.GoWords

/-- The keywords. -/
def keywords : List String :=
  ["break", "case", "chan", "const", "continue", "default", "defer", "else", "fallthrough", "for",
   "func", "go", "goto", "if", "import", "interface", "map", "package", "range", "return",
   "select", "struct", "switch", "type", "var"]

/-- The builtin types. -/
def builtinTypes : List String :=
  ["bool", "byte", "complex64", "complex128", "float32", "float64", "int", "int8", "int16",
   "int32", "int64", "rune", "string", "uint", "uint8", "uint16", "uint32", "uint64", "uintptr"]

/-- Words that are free in Go but stand in generated code throughout. -/
def generatorWords : List String := ["error", "nil"]

/-- All words that cannot serve as names. -/
def reserved : List String := keywords ++ builtinTypes ++ generatorWords

/-- Endings of file names that mark tests, operating systems and processors. -/
def fileNameEndings : List String :=
  ["test", "aix", "android", "darwin", "dragonfly", "freebsd", "illumos", "js", "linux", "netbsd",
   "openbsd", "plan9", "solaris", "windows", "386", "amd64", "arm", "arm64", "mips", "mips64",
   "mips64le", "mipsle", "ppc64", "ppc64le", "s390x", "wasm"]

/-- The types whose values are numbers. -/
def numberTypes : List String :=
  ["uint", "uint8", "uint16", "uint32", "uint64", "int", "int8", "int16", "int32", "int64",
   "float32", "float64"]

/-- Whether the literals of a type are written without quotes. -/
def isUnquotedType (datatype : String) : Bool :=
  numberTypes.contains datatype || datatype == "bool"

end GoBindings.GoWords
