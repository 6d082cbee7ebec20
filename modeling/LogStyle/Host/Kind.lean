import LogStyle.Value

/-! # Kinds of values

The types that a message may find in its arguments: those of the arguments themselves, and those of what hangs
on them. A kind has members, which the kinds below it have too unless they have their own of that name.
-/

namespace LogStyle

/-- A type of things that a message can reach. -/
inductive Kind where
  | object
  | type
  | text
  | int
  | real
  | bool
  | list
  | dict
  | null
  | tuple
  /-- A kind with a choice of items. -/
  | generic
  /-- A method of one thing. -/
  | boundMethod
  /-- An operator of one thing. -/
  | boundOperator
  /-- A method of all things of a kind. -/
  | method
  /-- An operator of all things of a kind. -/
  | operator
  /-- A field of all things of a kind. -/
  | field
  deriving Repr, DecidableEq

namespace Kind

/-- The words of some lines. -/
def words (lines : List Text) : List Text :=
  lines.flatMap (Text.splitOn ' ')

/-- What messages call a kind. -/
def name : Kind → Text
  | .object => "object"
  | .type => "type"
  | .text => "str"
  | .int => "int"
  | .real => "float"
  | .bool => "bool"
  | .list => "list"
  | .dict => "dict"
  | .null => "NoneType"
  | .tuple => "tuple"
  | .generic => "types.GenericAlias"
  | .boundMethod => "builtin_function_or_method"
  | .boundOperator => "method-wrapper"
  | .method => "method_descriptor"
  | .operator => "wrapper_descriptor"
  | .field => "getset_descriptor"

/-- Where a kind comes from, and what it is called there. -/
def home (k : Kind) : Text × Text :=
  match Text.cut? '.' k.name with
  | some (place, name) => (place, name)
  | none => ("builtins", k.name)

/-- A kind and the kinds above it, nearest first. -/
def lineage : Kind → List Kind
  | .object => [.object]
  | .bool => [.bool, .int, .object]
  | k => [k, .object]

/-- Every lineage starts with the kind itself. -/
theorem head_lineage (k : Kind) : k.lineage.head? = some k := by
  cases k <;> rfl

/-- Everything is an object. -/
theorem object_mem_lineage (k : Kind) : Kind.object ∈ k.lineage := by
  cases k <;> decide

/-- Whether a kind can be given a choice of items. -/
def takesItems : Kind → Bool
  | .list | .dict | .tuple | .type => true
  | _ => false

/-- What a kind says about itself. -/
def about : Kind → Option Text
  | .object => some <| Text.join "\n" [
      "The base class of the class hierarchy.",
      "",
      "When called, it accepts no arguments and returns a new featureless",
      "instance that has no instance attributes and cannot be given any.",
      ""]
  | .type => some <| Text.join "\n" [
      "type(object) -> the object's type",
      "type(name, bases, dict, **kwds) -> a new type"]
  | .text => some <| Text.join "\n" [
      "str(object='') -> str",
      "str(bytes_or_buffer[, encoding[, errors]]) -> str",
      "",
      "Create a new string object from the given object. If encoding or",
      "errors is specified, then the object must expose a data buffer",
      "that will be decoded using the given encoding and error handler.",
      "Otherwise, returns the result of object.__str__() (if defined)",
      "or repr(object).",
      "encoding defaults to sys.getdefaultencoding().",
      "errors defaults to 'strict'."]
  | .int => some <| Text.join "\n" [
      "int([x]) -> integer",
      "int(x, base=10) -> integer",
      "",
      "Convert a number or string to an integer, or return 0 if no arguments",
      "are given.  If x is a number, return x.__int__().  For floating point",
      "numbers, this truncates towards zero.",
      "",
      "If x is not a number or if base is given, then x must be a string,",
      "bytes, or bytearray instance representing an integer literal in the",
      "given base.  The literal can be preceded by '+' or '-' and be surrounded",
      "by whitespace.  The base defaults to 10.  Valid bases are 0 and 2-36.",
      "Base 0 means to interpret the base from the string as an integer literal.",
      ">>> int('0b100', base=0)",
      "4"]
  | .real => some "Convert a string or number to a floating point number, if possible."
  | .bool => some <| Text.join "\n" [
      "bool(x) -> bool",
      "",
      "Returns True when the argument x is true, False otherwise.",
      "The builtins True and False are the only two instances of the class bool.",
      "The class bool is a subclass of the class int, and cannot be subclassed."]
  | .list => some <| Text.join "\n" [
      "Built-in mutable sequence.",
      "",
      "If no argument is given, the constructor creates a new empty list.",
      "The argument must be an iterable if specified."]
  | .dict => some <| Text.join "\n" [
      "dict() -> new empty dictionary",
      "dict(mapping) -> new dictionary initialized from a mapping object's",
      "    (key, value) pairs",
      "dict(iterable) -> new dictionary initialized as if via:",
      "    d = \x7b\x7d",
      "    for k, v in iterable:",
      "        d[k] = v",
      "dict(**kwargs) -> new dictionary initialized with the name=value pairs",
      "    in the keyword argument list.  For example:  dict(one=1, two=2)"]
  | .tuple => some <| Text.join "\n" [
      "Built-in immutable sequence.",
      "",
      "If no argument is given, the constructor returns an empty tuple.",
      "If iterable is specified the tuple is initialized from iterable's items.",
      "",
      "If the argument is a tuple, the return value is the same object."]
  | .generic => some <| Text.join "\n" [
      "Represent a PEP 585 generic type",
      "",
      "E.g. for t = list[int], t.__origin__ is list and t.__args__ is (int,)."]
  | _ => none

/-! ## Members -/

/-- The operators that values of a type have of themselves. -/
def operators : Kind → List Text
  | .object => words [
      "__delattr__ __eq__ __ge__ __getattribute__ __gt__ __hash__ __init__ __le__ __lt__ __ne__ __repr__",
      "__setattr__ __str__"]
  | .type => words ["__call__ __delattr__ __getattribute__ __init__ __or__ __repr__ __ror__ __setattr__"]
  | .text => words [
      "__add__ __contains__ __eq__ __ge__ __getattribute__ __getitem__ __gt__ __hash__ __iter__ __le__",
      "__len__ __lt__ __mod__ __mul__ __ne__ __repr__ __rmod__ __rmul__ __str__"]
  | .int => words [
      "__abs__ __add__ __and__ __bool__ __divmod__ __eq__ __float__ __floordiv__ __ge__ __getattribute__",
      "__gt__ __hash__ __index__ __int__ __invert__ __le__ __lshift__ __lt__ __mod__ __mul__ __ne__ __neg__",
      "__or__ __pos__ __pow__ __radd__ __rand__ __rdivmod__ __repr__ __rfloordiv__ __rlshift__ __rmod__",
      "__rmul__ __ror__ __rpow__ __rrshift__ __rshift__ __rsub__ __rtruediv__ __rxor__ __sub__ __truediv__",
      "__xor__"]
  | .real => words [
      "__abs__ __add__ __bool__ __divmod__ __eq__ __float__ __floordiv__ __ge__ __getattribute__ __gt__",
      "__hash__ __int__ __le__ __lt__ __mod__ __mul__ __ne__ __neg__ __pos__ __pow__ __radd__ __rdivmod__",
      "__repr__ __rfloordiv__ __rmod__ __rmul__ __rpow__ __rsub__ __rtruediv__ __sub__ __truediv__"]
  | .bool => words ["__and__ __or__ __rand__ __repr__ __ror__ __rxor__ __xor__"]
  | .list => words [
      "__add__ __contains__ __delitem__ __eq__ __ge__ __getattribute__ __gt__ __iadd__ __imul__ __init__",
      "__iter__ __le__ __len__ __lt__ __mul__ __ne__ __repr__ __rmul__ __setitem__"]
  | .dict => words [
      "__delitem__ __eq__ __ge__ __getattribute__ __gt__ __init__ __ior__ __iter__ __le__ __len__ __lt__",
      "__ne__ __or__ __repr__ __ror__ __setitem__"]
  | .null => words ["__bool__ __repr__"]
  | .tuple => words [
      "__add__ __contains__ __eq__ __ge__ __getattribute__ __getitem__ __gt__ __hash__ __iter__ __le__",
      "__len__ __lt__ __mul__ __ne__ __repr__ __rmul__"]
  | .generic => words [
      "__call__ __eq__ __ge__ __getattribute__ __getitem__ __gt__ __hash__ __iter__ __le__ __lt__ __ne__",
      "__or__ __repr__ __ror__"]
  | .boundMethod | .boundOperator => words [
      "__call__ __eq__ __ge__ __getattribute__ __gt__ __hash__ __le__ __lt__ __ne__ __repr__"]
  | .method | .operator => words ["__call__ __get__ __getattribute__ __repr__"]
  | .field => words ["__delete__ __get__ __getattribute__ __repr__ __set__"]

/-- The methods that values of a type have of themselves. -/
def methods : Kind → List Text
  | .object => words ["__dir__ __format__ __getstate__ __reduce__ __reduce_ex__ __sizeof__"]
  | .type => words ["__dir__ __instancecheck__ __sizeof__ __subclasscheck__ __subclasses__ mro"]
  | .text => words [
      "__format__ __getnewargs__ __sizeof__ capitalize casefold center count encode endswith expandtabs",
      "find format format_map index isalnum isalpha isascii isdecimal isdigit isidentifier islower",
      "isnumeric isprintable isspace istitle isupper join ljust lower lstrip partition removeprefix",
      "removesuffix replace rfind rindex rjust rpartition rsplit rstrip split splitlines startswith strip",
      "swapcase title translate upper zfill"]
  | .int => words [
      "__ceil__ __floor__ __format__ __getnewargs__ __round__ __sizeof__ __trunc__ as_integer_ratio",
      "bit_count bit_length conjugate to_bytes"]
  | .real => words [
      "__ceil__ __floor__ __format__ __getnewargs__ __round__ __trunc__ as_integer_ratio conjugate hex",
      "is_integer"]
  | .list => words [
      "__getitem__ __reversed__ __sizeof__ append clear copy count extend index insert pop remove reverse",
      "sort"]
  | .dict => words [
      "__contains__ __getitem__ __reversed__ __sizeof__ clear copy get items keys pop popitem setdefault",
      "update values"]
  | .tuple => words ["__getnewargs__ count index"]
  | .generic => words ["__dir__ __instancecheck__ __mro_entries__ __reduce__ __subclasscheck__"]
  | .boundMethod | .boundOperator | .method | .operator => words ["__reduce__"]
  | _ => []

/-- The methods that make values of a type itself. -/
def makers : Kind → List Text
  | .boundMethod | .boundOperator | .method | .operator | .field => []
  | _ => ["__new__"]

/-- The methods that stand beside a type and belong to no thing. -/
def statics : Kind → List Text
  | .text => ["maketrans"]
  | _ => []

/-- The methods that a type has for itself and the types below it. -/
def classMethods : Kind → List Text
  | .object => words ["__init_subclass__ __subclasshook__"]
  | .type => words ["__prepare__"]
  | .int => words ["from_bytes"]
  | .real => words ["__getformat__ fromhex"]
  | .list | .tuple => words ["__class_getitem__"]
  | .dict => words ["__class_getitem__ fromkeys"]
  | _ => []

/-- The fields that values of a type have of themselves. -/
def fields : Kind → List Text
  | .int => words ["denominator imag numerator real"]
  | .real => words ["imag real"]
  | _ => []

end Kind

/-- The sorts of members. -/
inductive MemberSort where
  | operator
  | method
  | maker
  | static
  | classMethod
  | field
  deriving Repr, DecidableEq

/-- A member that a kind has of itself. -/
structure Member where
  owner : Kind
  name : Text
  sort : MemberSort
  deriving Repr, DecidableEq

/-- The sort of the member of a name that a kind has of itself. -/
def Kind.own? (k : Kind) (name : Text) : Option Member :=
  let of (names : List Text) (sort : MemberSort) : Option Member :=
    if names.contains name then some ⟨k, name, sort⟩ else none
  of k.operators .operator <|> of k.methods .method <|> of k.makers .maker
    <|> of k.statics .static <|> of k.classMethods .classMethod <|> of k.fields .field

/-- The member of a name that values of a kind have: the nearest one above. -/
def Kind.member? (k : Kind) (name : Text) : Option Member :=
  k.lineage.findSome? (Kind.own? · name)

end LogStyle
