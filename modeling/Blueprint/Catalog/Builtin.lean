/-
# Built in classes

The classes that need no description: the root of all classes, the collections and numbers
that can be named, the bases that give a class a special kind, and the classes that classes are
objects of.  Of their methods the parameters are listed, or it is said why these cannot be told.
-/
import Blueprint.Catalog.Class

namespace Blueprint.Catalog.Builtin

/-! ## Parameters -/

/-- A parameter that takes one argument in order and is required. -/
def required (name : Text) : Formal := ⟨name, .positionalOnly, .required⟩

/-- A parameter that takes one argument in order and may be left out. -/
def optional (name : Text) : Formal := ⟨name, .positionalOnly, .unreadable⟩

/-- A parameter that is passed by name and may be left out. -/
def option (name : Text) : Formal := ⟨name, .keywordOnly, .unreadable⟩

/-- A parameter that takes an argument in order or by name and is required. -/
def parameter (name : Text) : Formal := ⟨name, .positional, .required⟩

/-- A parameter that takes an argument in order or by name and falls back to a value. -/
def defaulted (name : Text) (v : Value) : Formal := ⟨name, .positional, .declared v⟩

/-- A parameter that takes an argument by name and falls back to a value. -/
def keyword (name : Text) (v : Value) : Formal := ⟨name, .keywordOnly, .declared v⟩

/-- The parameter for the surplus arguments in order. -/
def surplus (name : Text) : Formal := ⟨name, .variadic, .required⟩

/-- The parameter for the surplus arguments by name. -/
def keywords (name : Text) : Formal := ⟨name, .keywordVariadic, .required⟩

/-- The parameter for the object itself. -/
def receiver : Formal := required "self"

/-! ## Attributes -/

/-- Built in methods with the same parameters. -/
def methods (type : Text) (formals : Signature) (names : List Text) : Names :=
  names.map fun name => (name, .native type name (.ok (receiver :: formals)))

/-- The built in function that makes objects of a class. -/
def maker (type : Text) : Names :=
  [("__new__", .native type "__new__" (.ok [surplus "args", keywords "kwargs"]))]

/-- The built in method that initializes objects of a class. -/
def initializer (type : Text) : Names :=
  methods type [surplus "args", keywords "kwargs"] ["__init__"]

/-- A method as it is named in messages. -/
def methodText (type name : Text) : Text :=
  "<method '" ++ name ++ "' of '" ++ type ++ "' objects>"

/-- Methods that say nothing about their parameters. -/
def unreadable (type : Text) (names : List Text) : Names :=
  names.map fun name => (name, .native type name (.error (.builtin (methodText type name))))

/-- Methods that say something about their parameters that cannot be read. -/
def garbled (type : Text) (names : List Text) : Names :=
  names.map fun name => (name, .native type name (.error (.garbled (methodText type name))))

/-- Functions of a class that say nothing about their parameters. -/
def unreadableOfClass (type : Text) (names : List Text) : Names :=
  names.map fun name =>
    (name, .native type name
      (.error (.builtin ("<built-in method " ++ name ++ " of type object>"))))

/-- Attributes that every object has a value for. -/
def computed (names : List Text) : Names :=
  names.map fun name => (name, .stored "getset_descriptor")

/-- Attributes that every object stores. -/
def stored (names : List Text) : Names :=
  names.map fun name => (name, .stored "member_descriptor")

/-- Attributes of which nothing but the type is known. -/
def hidden (type : Text) (names : List Text) : Names :=
  names.map fun name => (name, .hidden type)

/-- Functions with the same parameters. -/
def functions (type : Text) (formals : Signature) (names : List Text) : Names :=
  names.map fun name => (name, .function ⟨type ++ "." ++ name, formals, false⟩)

/-- Functions with the same parameters that the class is bound to. -/
def ofClass (type : Text) (formals : Signature) (names : List Text) : Names :=
  names.map fun name => (name, .ofClass ⟨type ++ "." ++ name, formals, false⟩)

/-- A function that nothing is bound to. -/
def free (type : Text) (formals : Signature) (name : Text) : Names :=
  [(name, .free ⟨type ++ "." ++ name, formals, false⟩)]

/-- A description, which most built in classes have. -/
def described : Names := hidden "str" ["__doc__"]

/-- What a class of a library has: its module and a description. -/
def ofLibrary (moduleName : Text) : Names :=
  [(Layer.moduleKey, .value (.str moduleName))] ++ described

/-- Comparisons. -/
def comparisons : List Text := ["__lt__", "__le__", "__eq__", "__ne__", "__gt__", "__ge__"]

/-- The slots of a class that adds none. -/
def noSlots : Names := [("__slots__", .value (.tuple []))]

/-! ## Layers -/

/-- What tells a built in class from others. -/
def id (serial : Nat) : ClassId := ⟨builtinModule, serial⟩

/-- How objects are stored that store nothing. -/
def bareLayout : Layout := ⟨[id 0], false, false, false⟩

/-- How objects of a class are stored that adds something of fixed size to the root. -/
def solidLayout (serial : Nat) (hasDict isSized : Bool) : Layout :=
  ⟨[id serial, id 0], hasDict, false, isSized⟩

/-- The layer of a built in class. -/
def layer (serial : Nat) (name : Text) (layout : Layout) (attributes : List Names)
    (metaclass : Metaclass) : Layer :=
  { id := id serial, name, qualifiedName := name, metaclass, layout
    attributes := attributes.flatten
    dataFields := none
    abstractNames := if metaclass.extends .abstract then some [] else none }

/-- The layer of the root of all classes. -/
def objectLayer : Layer :=
  layer 0 "object" bareLayout
    [maker "object", initializer "object",
      methods "object" []
        ["__repr__", "__hash__", "__str__", "__reduce__", "__getstate__", "__sizeof__",
          "__dir__"],
      methods "object" [required "name"] ["__getattribute__", "__delattr__"],
      methods "object" [required "name", required "value"] ["__setattr__"],
      methods "object" [required "value"] comparisons,
      methods "object" [required "protocol"] ["__reduce_ex__"],
      methods "object" [required "format_spec"] ["__format__"],
      unreadableOfClass "object" ["__subclasshook__", "__init_subclass__"],
      computed ["__class__"], described]
    .plain

/-- The root of all classes. -/
def object : Class := ⟨objectLayer, [], none, .ok []⟩

/-- The layer of lists. -/
def listLayer : Layer :=
  layer 1 "list" (solidLayout 1 false false)
    [maker "list", initializer "list",
      methods "list" []
        ["__repr__", "__iter__", "__len__", "__reversed__", "__sizeof__", "clear", "copy",
          "reverse"],
      [("__hash__", .value .null)],
      methods "list" [required "name"] ["__getattribute__"],
      methods "list" [required "value"] comparisons,
      methods "list" [required "value"]
        ["__add__", "__mul__", "__rmul__", "__iadd__", "__imul__", "remove", "count"],
      unreadable "list" ["__getitem__"],
      methods "list" [required "key", required "value"] ["__setitem__"],
      methods "list" [required "key"] ["__delitem__", "__contains__"],
      methods "list" [required "object"] ["append"],
      methods "list" [required "index", required "object"] ["insert"],
      methods "list" [required "iterable"] ["extend"],
      methods "list" [optional "index"] ["pop"],
      methods "list" [required "value", optional "start", optional "stop"] ["index"],
      methods "list" [option "key", option "reverse"] ["sort"],
      unreadableOfClass "list" ["__class_getitem__"], described]
    .plain

/-- The layer of dictionaries. -/
def dictLayer : Layer :=
  layer 2 "dict" (solidLayout 2 false false)
    [maker "dict", initializer "dict",
      methods "dict" [] ["__repr__", "__iter__", "__len__", "popitem", "__reversed__"],
      [("__hash__", .value .null)],
      methods "dict" [required "name"] ["__getattribute__"],
      methods "dict" [required "value"] comparisons,
      methods "dict" [required "value"] ["__or__", "__ror__", "__ior__"],
      methods "dict" [required "key", required "value"] ["__setitem__"],
      methods "dict" [required "key"] ["__delitem__", "__contains__"],
      methods "dict" [required "key", optional "default"] ["get", "setdefault"],
      unreadable "dict"
        ["__getitem__", "__sizeof__", "keys", "items", "values", "update", "clear", "copy"],
      garbled "dict" ["pop"],
      [("fromkeys", .native "dict" "fromkeys" (.ok [required "iterable", optional "value"]))],
      unreadableOfClass "dict" ["__class_getitem__"], described]
    .plain

/-- The layer of whole numbers. -/
def intLayer : Layer :=
  layer 3 "int" (solidLayout 3 false true)
    [maker "int",
      methods "int" []
        ["__repr__", "__hash__", "__neg__", "__pos__", "__abs__", "__bool__", "__invert__",
          "__int__", "__float__", "__index__", "bit_length", "bit_count", "as_integer_ratio",
          "__getnewargs__", "__sizeof__"],
      methods "int" [required "name"] ["__getattribute__"],
      methods "int" [required "value"] comparisons,
      methods "int" [required "value"]
        ["__add__", "__radd__", "__sub__", "__rsub__", "__mul__", "__rmul__",
          "__mod__", "__rmod__", "__divmod__", "__rdivmod__", "__lshift__", "__rlshift__",
          "__rshift__", "__rrshift__", "__and__", "__rand__", "__xor__", "__rxor__", "__or__",
          "__ror__", "__floordiv__", "__rfloordiv__", "__truediv__", "__rtruediv__"],
      methods "int" [required "value", optional "mod"] ["__pow__", "__rpow__"],
      methods "int" [required "format_spec"] ["__format__"],
      [("to_bytes", .native "int" "to_bytes" (.ok
          [receiver, ⟨"length", .positional, .unreadable⟩,
            ⟨"byteorder", .positional, .unreadable⟩, option "signed"])),
        ("from_bytes", .native "int" "from_bytes" (.ok
          [parameter "bytes", ⟨"byteorder", .positional, .unreadable⟩, option "signed"]))],
      unreadable "int" ["conjugate", "__trunc__", "__floor__", "__ceil__"],
      garbled "int" ["__round__"],
      computed ["real", "imag", "numerator", "denominator"], described]
    .plain

/-- What a class has that keeps the names of what has to be overridden. -/
def abstractMarks : Names :=
  hidden "frozenset" ["__abstractmethods__"] ++ hidden "_abc_data" ["_abc_impl"]

/-- The layer of the base of classes that keep the names of what has to be overridden. -/
def abstractLayer : Layer :=
  layer 4 "ABC" bareLayout [ofLibrary "abc", noSlots, abstractMarks] .abstract

/-- The function of a class that is told of each new descendant. -/
def subclassHook (type : Text) : Names :=
  ofClass type [parameter "cls", surplus "args", keywords "kwargs"] ["__init_subclass__"]

/-- The layer of the base of protocols. -/
def protocolLayer : Layer :=
  layer 5 "Protocol" bareLayout
    [ofLibrary "typing", noSlots,
      [("_is_protocol", .value (.bool true)), ("_is_runtime_protocol", .value (.bool false))],
      subclassHook "Protocol", [("__parameters__", .value (.tuple []))], abstractMarks]
    .protocol

/-- The layer of the base of generic classes, which is a base of protocols. -/
def genericLayer : Layer :=
  layer 6 "Generic" bareLayout
    [ofLibrary "typing", noSlots, [("_is_protocol", .value (.bool false))],
      ofClass "Generic" [parameter "cls", parameter "params"] ["__class_getitem__"],
      subclassHook "Generic"]
    .plain

/-- The function that every enumeration has to look up its members. -/
def enumerationLookup : Function :=
  ⟨"Enum.__new__", [parameter "cls", parameter "value"], false⟩

/-- The layer of the base of enumerations. -/
def enumerationLayer : Layer :=
  layer 7 "Enum" ⟨[id 0], true, true, false⟩
    [ofLibrary "enum", [("__new__", .free enumerationLookup)],
      functions "Enum" [parameter "self", surplus "args", keywords "kwds"] ["__init__"],
      functions "Enum"
        [parameter "name", parameter "start", parameter "count", parameter "last_values"]
        ["_generate_next_value_"],
      ofClass "Enum" [parameter "cls", parameter "value"] ["_missing_"],
      functions "Enum" [parameter "self"]
        ["__repr__", "__str__", "__dir__", "__hash__", "__copy__"],
      functions "Enum" [parameter "self", parameter "format_spec"] ["__format__"],
      functions "Enum" [parameter "self", parameter "proto"] ["__reduce_ex__"],
      functions "Enum" [parameter "self", parameter "memo"] ["__deepcopy__"],
      [("name", .ofMembers), ("value", .ofMembers),
        ("_new_member_", .function enumerationLookup), ("_use_args_", .value (.bool true)),
        ("_member_names_", .value (.list [])), ("_member_map_", .value (.dict [])),
        ("_value2member_map_", .value (.dict [])), ("_unhashable_values_", .value (.list []))],
      [("_member_type_", .cls object), ("_value_repr_", .value .null)],
      computed ["__dict__", "__weakref__"]]
    .enumeration

/-- The layer of exceptions. -/
def exceptionLayer : Layer :=
  layer 8 "Exception" (solidLayout 9 true false)
    [maker "Exception", initializer "Exception", described] .plain

/-- The layer of everything that can be raised. -/
def raisableLayer : Layer :=
  layer 9 "BaseException" (solidLayout 9 true false)
    [maker "BaseException", initializer "BaseException",
      methods "BaseException" [] ["__repr__", "__str__"],
      methods "BaseException" [required "name"] ["__getattribute__", "__delattr__"],
      methods "BaseException" [required "name", required "value"] ["__setattr__"],
      unreadable "BaseException" ["__reduce__", "__setstate__", "with_traceback", "add_note"],
      stored ["__suppress_context__"],
      computed ["__dict__", "args", "__traceback__", "__context__", "__cause__"], described]
    .plain

/-- The layer of classes as objects. -/
def typeLayer : Layer :=
  layer 10 "type" ⟨[id 10, id 0], true, true, true⟩
    [maker "type",
      methods "type" [surplus "args", keywords "kwargs"] ["__init__", "__call__"],
      methods "type" [] ["__repr__", "mro", "__subclasses__", "__dir__", "__sizeof__"],
      methods "type" [required "name"] ["__getattribute__", "__delattr__"],
      methods "type" [required "name", required "value"] ["__setattr__"],
      methods "type" [required "value"] ["__or__", "__ror__"],
      methods "type" [required "instance"] ["__instancecheck__"],
      methods "type" [required "subclass"] ["__subclasscheck__"],
      unreadableOfClass "type" ["__prepare__"],
      stored ["__basicsize__", "__itemsize__", "__flags__", "__weakrefoffset__",
        "__dictoffset__", "__base__", "__mro__"],
      computed ["__name__", "__qualname__", "__bases__", "__module__", "__abstractmethods__",
        "__dict__", "__doc__", "__text_signature__", "__annotations__"]]
    .plain

/-- The layer of classes that keep the names of what has to be overridden. -/
def abstractTypeLayer : Layer :=
  layer 11 "ABCMeta" typeLayer.layout
    [ofLibrary "abc",
      free "ABCMeta" [required "mcls", required "name", required "bases", required "namespace",
        keywords "kwargs"] "__new__",
      functions "ABCMeta" [parameter "cls", parameter "subclass"]
        ["register", "__subclasscheck__"],
      functions "ABCMeta" [parameter "cls", parameter "instance"] ["__instancecheck__"],
      functions "ABCMeta" [parameter "cls", defaulted "file" .null] ["_dump_registry"],
      functions "ABCMeta" [parameter "cls"] ["_abc_registry_clear", "_abc_caches_clear"]]
    .plain

/-- The layer of protocols as objects. -/
def protocolTypeLayer : Layer :=
  layer 12 "_ProtocolMeta" typeLayer.layout
    [[(Layer.moduleKey, .value (.str "typing")), ("__doc__", .value .null)],
      functions "_ProtocolMeta" [parameter "cls", parameter "instance"] ["__instancecheck__"]]
    .plain

/-- The parameters by name of the call that makes an enumeration. -/
def enumerationOptions : Signature :=
  [keyword "module" .null, keyword "qualname" .null, keyword "type" .null,
    keyword "start" (.int 1), keyword "boundary" .null]

/-- The parameters of the call that looks up or makes an enumeration. -/
def enumerationCall : Signature :=
  parameter "value" :: defaulted "names" .null :: enumerationOptions

/-- The layer of enumerations as objects. -/
def enumerationTypeLayer : Layer :=
  layer 13 "EnumType" typeLayer.layout
    [ofLibrary "enum",
      ofClass "EnumType"
        [parameter "metacls", parameter "cls", parameter "bases", keywords "kwds"]
        ["__prepare__"],
      free "EnumType" [parameter "metacls", parameter "cls", parameter "bases",
        parameter "classdict", keyword "boundary" .null, keyword "_simple" (.bool false),
        keywords "kwds"] "__new__",
      functions "EnumType" [parameter "cls"]
        ["__bool__", "__dir__", "__iter__", "__len__", "__repr__", "__reversed__"],
      functions "EnumType" (parameter "cls" :: enumerationCall) ["__call__"],
      functions "EnumType" [parameter "cls", parameter "member"] ["__contains__"],
      functions "EnumType" [parameter "cls", parameter "attr"] ["__delattr__"],
      functions "EnumType" [parameter "cls", parameter "name"] ["__getattr__", "__getitem__"],
      [("__members__", .property false)],
      functions "EnumType" [parameter "cls", parameter "name", parameter "value"]
        ["__setattr__"],
      functions "EnumType"
        (parameter "cls" :: parameter "class_name" :: parameter "names" :: enumerationOptions)
        ["_create_"],
      functions "EnumType" [parameter "cls", parameter "name", parameter "module",
        parameter "filter", defaulted "source" .null, keyword "boundary" .null,
        keyword "as_global" (.bool false)] ["_convert_"],
      ofClass "EnumType" [parameter "mcls", parameter "class_name", parameter "bases"]
        ["_check_for_existing_members_", "_get_mixins_", "_find_data_repr_",
          "_find_data_type_"],
      ofClass "EnumType" [parameter "mcls", parameter "classdict", parameter "member_type",
        parameter "first_enum"] ["_find_new_"]]
    .plain

/-! ## Classes -/

/-- A built in class that says nothing about the parameters of its constructor. -/
def opaqueClass (own : Layer) (ancestors : List Layer) (base : Class) : Class :=
  ⟨own, ancestors, some base, .error (.builtinClass own.display)⟩

/-- Lists. -/
def list : Class :=
  ⟨listLayer, [objectLayer], some object,
    .ok [⟨"iterable", .positionalOnly, .declared (.tuple [])⟩]⟩

/-- Dictionaries. -/
def dict : Class := opaqueClass dictLayer [objectLayer] object

/-- Whole numbers. -/
def int : Class := opaqueClass intLayer [objectLayer] object

/-- The base of classes that keep the names of what has to be overridden. -/
def abstractBase : Class := ⟨abstractLayer, [objectLayer], some object, .ok []⟩

/-- The base of generic classes. -/
def generic : Class := ⟨genericLayer, [objectLayer], some object, .ok []⟩

/-- The base of protocols. -/
def protocol : Class := ⟨protocolLayer, [genericLayer, objectLayer], some generic, .ok []⟩

/-- The base of enumerations. -/
def enumeration : Class :=
  ⟨enumerationLayer, [objectLayer], some object, .ok enumerationCall⟩

/-- The base of everything that can be raised. -/
def raisable : Class := opaqueClass raisableLayer [objectLayer] object

/-- The base of exceptions. -/
def exception : Class := opaqueClass exceptionLayer [raisableLayer, objectLayer] raisable

/-- Classes as objects. -/
def type : Class :=
  ⟨typeLayer, [objectLayer], some object, .error (.builtin typeLayer.display)⟩

/-- The parameters of the call that makes a class that keeps the names of what has to be
overridden. -/
def abstractTypeCall : Signature :=
  [required "name", required "bases", required "namespace", keywords "kwargs"]

/-- Classes that keep the names of what has to be overridden, as objects. -/
def abstractType : Class :=
  ⟨abstractTypeLayer, [typeLayer, objectLayer], some type, .ok abstractTypeCall⟩

/-- Protocols as objects. -/
def protocolType : Class :=
  ⟨protocolTypeLayer, [abstractTypeLayer, typeLayer, objectLayer], some abstractType,
    .ok abstractTypeCall⟩

/-- Enumerations as objects. -/
def enumerationType : Class :=
  ⟨enumerationTypeLayer, [typeLayer, objectLayer], some type,
    .ok [parameter "cls", parameter "bases", parameter "classdict", keyword "boundary" .null,
      keyword "_simple" (.bool false), keywords "kwds"]⟩

/-- The class that classes of a sort are objects of. -/
def metaclass : Metaclass → Class
  | .plain => type
  | .abstract => abstractType
  | .protocol => protocolType
  | .enumeration => enumerationType

/-- The classes that can be named as bases. -/
def bases : List (Text × Class) :=
  [("@ABC", abstractBase), ("@Protocol", protocol), ("@Enum", enumeration),
    ("@Exception", exception), ("@list", list)]

/-- The names that stand for something in every module. -/
def names : Names :=
  [("object", .cls object), ("list", .cls list), ("dict", .cls dict), ("int", .cls int),
    ("type", .cls type), ("Exception", .cls exception), ("BaseException", .cls raisable)]

end Blueprint.Catalog.Builtin
