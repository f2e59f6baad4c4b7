/-
A fresh machine: the global object with the functions of the library, each under its names, and the
objects that values inherit from. What is found here is a part of the standard library, and the machine has
no symbols, regular expressions, maps, sets, typed arrays, proxies, or modules.
-/
import ScriptHost.Script.Property

namespace ScriptHost.Script.Fresh

/-! ## What is found where -/

/-- A function under a name, with the number of its parameters. -/
structure Entry where
  name : String
  length : Nat
  native : Native

/-- The functions of an object. -/
structure Group where
  holder : Ref
  entries : List Entry

/-- A function that makes objects, with the object that they inherit from and its own functions. -/
structure Maker where
  entry : Entry
  parent : Ref
  statics : List Entry

/-- A collection of functions under a global name. -/
structure Library where
  name : String
  entries : List Entry

def errorMaker (k : ErrorKind) : Maker := ⟨⟨k.name, 1, .error k⟩, .errorParent k, []⟩

def makers : List Maker := [
  ⟨⟨"Object", 1, .object⟩, .objectParent,
    [⟨"keys", 1, .objectKeys⟩, ⟨"create", 2, .objectCreate⟩,
      ⟨"getOwnPropertyDescriptor", 2, .objectDescriptor⟩, ⟨"defineProperty", 3, .objectDefine⟩,
      ⟨"getPrototypeOf", 1, .objectParent⟩]⟩,
  ⟨⟨"Function", 1, .function⟩, .functionParent, []⟩,
  ⟨⟨"Array", 1, .array⟩, .arrayParent, [⟨"isArray", 1, .isArray⟩]⟩,
  ⟨⟨"String", 1, .string⟩, .stringParent, []⟩,
  ⟨⟨"Number", 1, .number⟩, .numberParent, []⟩,
  ⟨⟨"Boolean", 1, .boolean⟩, .booleanParent, []⟩,
  ⟨⟨"Promise", 1, .promise⟩, .promiseParent,
    [⟨"resolve", 1, .resolve⟩, ⟨"reject", 1, .reject⟩]⟩,
  ⟨⟨"Date", 7, .date⟩, .dateParent, [⟨"now", 0, .now⟩, ⟨"UTC", 7, .timeOfParts⟩]⟩] ++ ErrorKind.all.map errorMaker

/-- The functions that give the parts of a date. -/
def dateParts (universal : Bool) (names : List String) : List Entry :=
  names.zipWith (fun name part => ⟨name, 0, .datePart part universal⟩) Moment.Part.all

def groups : List Group := [
  ⟨.global, [⟨"eval", 1, .eval⟩]⟩,
  ⟨.objectParent, [⟨"toString", 0, .toString⟩, ⟨"valueOf", 0, .valueOf⟩, ⟨"hasOwnProperty", 1, .hasOwn⟩]⟩,
  ⟨.functionParent, [⟨"call", 1, .call⟩, ⟨"apply", 2, .apply⟩, ⟨"toString", 0, .functionText⟩]⟩,
  ⟨.arrayParent, [⟨"push", 1, .push⟩, ⟨"map", 1, .map⟩, ⟨"forEach", 1, .forEach⟩, ⟨"join", 1, .join⟩,
    ⟨"toString", 0, .arrayText⟩, ⟨"indexOf", 1, .indexOf⟩]⟩,
  ⟨.stringParent, [⟨"toString", 0, .stringValue⟩, ⟨"valueOf", 0, .stringValue⟩, ⟨"charAt", 1, .charAt⟩,
    ⟨"repeat", 1, .repeat⟩]⟩,
  ⟨.numberParent, [⟨"toString", 1, .numberText⟩, ⟨"valueOf", 0, .numberValue⟩]⟩,
  ⟨.booleanParent, [⟨"toString", 0, .booleanText⟩, ⟨"valueOf", 0, .booleanValue⟩]⟩,
  ⟨.promiseParent, [⟨"then", 2, .then⟩, ⟨"catch", 1, .catch⟩]⟩,
  ⟨.dateParent, [⟨"getTime", 0, .dateValue⟩, ⟨"valueOf", 0, .dateValue⟩, ⟨"toString", 0, .dateText⟩,
    ⟨"toISOString", 0, .isoText⟩, ⟨"toJSON", 1, .dateJson⟩, ⟨"getTimezoneOffset", 0, .zoneOffset⟩]⟩,
  ⟨.dateParent, dateParts false ["getFullYear", "getMonth", "getDate", "getDay", "getHours", "getMinutes",
    "getSeconds", "getMilliseconds"]⟩,
  ⟨.dateParent, dateParts true ["getUTCFullYear", "getUTCMonth", "getUTCDate", "getUTCDay", "getUTCHours",
    "getUTCMinutes", "getUTCSeconds", "getUTCMilliseconds"]⟩,
  ⟨.errorParent .error, [⟨"toString", 0, .errorText⟩]⟩]

def libraries : List Library := [
  ⟨"JSON", [⟨"parse", 2, .parse⟩, ⟨"stringify", 3, .stringify⟩]⟩,
  ⟨"Math", [⟨"max", 2, .max⟩, ⟨"random", 0, .random⟩]⟩]

/-! ## Building the heap -/

/-- A heap under construction. -/
abbrev Heap := Array Obj

/-- Adds an object and yields its reference. -/
def add (o : Obj) (h : Heap) : Ref × Heap := (⟨h.size⟩, h.push o)

/-- Gives an object a property. -/
def putIn (r : Ref) (k : Key) (s : Slot) (h : Heap) : Heap := h.modify r.index (Obj.put k s)

/-- A function as an object. -/
def functionObject (x : Entry) : Obj where
  kind := .native x.native
  parent := some .functionParent
  slots := [("name", .data (.string (Utf16.ofString x.name)) false false true),
    (.length, .data (.number (Float.ofNat x.length)) false false true)]

/-- Adds a function to an object under its name. -/
def addEntry (holder : Ref) (h : Heap) (x : Entry) : Heap :=
  let (f, h) := add (functionObject x) h
  putIn holder x.name (.hidden (.object f)) h

def addEntries (holder : Ref) (h : Heap) (xs : List Entry) : Heap := xs.foldl (addEntry holder) h

/-- Adds a function that makes objects. -/
def addMaker (h : Heap) (x : Maker) : Heap :=
  let (f, h) := add (functionObject x.entry) h
  let h := putIn .global x.entry.name (.hidden (.object f)) h
  let h := putIn f "prototype" (.data (.object x.parent) false false false) h
  let h := putIn x.parent "constructor" (.hidden (.object f)) h
  addEntries f h x.statics

def addLibrary (h : Heap) (x : Library) : Heap :=
  let (r, h) := add { kind := .library (Text.ofString x.name), parent := some .objectParent } h
  let h := putIn .global x.name (.hidden (.object r)) h
  addEntries r h x.entries

/-- The parent of the errors of a kind, with the name and message that they inherit. -/
def errorParentObject (k : ErrorKind) : Obj where
  parent := some (if k = .error then .objectParent else .errorParent .error)
  slots := [("message", .hidden (.string [])), ("name", .hidden (.string (Utf16.ofString k.name)))]

/-- The objects that have fixed references, in the order of these. -/
def first : Heap := #[
  { parent := some .objectParent },
  { parent := none },
  { kind := .native .nothing, parent := some .objectParent },
  { kind := .array 0 false, parent := some .objectParent },
  { kind := .boxed (.string []), parent := some .objectParent },
  { kind := .boxed (.number 0), parent := some .objectParent },
  { kind := .boxed (.bool false), parent := some .objectParent },
  { parent := some .objectParent }] ++ (ErrorKind.all.map errorParentObject).toArray ++
  #[{ parent := some .objectParent }]

/-- Adds the accessor of the parent that every object inherits. -/
def addParentAccessor (h : Heap) : Heap :=
  let (g, h) := add (functionObject ⟨"get __proto__", 0, .getParent⟩) h
  let (s, h) := add (functionObject ⟨"set __proto__", 1, .setParent⟩) h
  putIn .objectParent "__proto__" (.accessor (some g) (some s) false true) h

/-- The global values that cannot be changed. -/
def addConstants (h : Heap) : Heap :=
  let fixed (k : String) (v : Value) (h : Heap) : Heap := putIn .global k (.data v false false false) h
  fixed "undefined" .undefined (fixed "NaN" (.number (0 / 0)) (fixed "Infinity" (.number (1 / 0)) h))

/-- The heap of a fresh machine. -/
def heap : Heap :=
  let h := addConstants first
  let h := putIn .global "globalThis" (.hidden (.object .global)) h
  let h := makers.foldl addMaker h
  let h := groups.foldl (fun h g => addEntries g.holder h g.entries) h
  let h := libraries.foldl addLibrary h
  addParentAccessor h

end ScriptHost.Script.Fresh

namespace ScriptHost.Script

/-- A fresh machine. -/
def Machine.fresh : Machine :=
  { heap := Fresh.heap, scopes := #[.global], jobs := [], unhandled := [], result := .undefined }

end ScriptHost.Script
