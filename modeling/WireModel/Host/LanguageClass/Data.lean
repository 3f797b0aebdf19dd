import WireModel.Host.LanguageClass.Basic

/-!
The classes of the host language with their attributes.
-/

namespace WireModel

namespace LanguageClass

/-- Values: numbers, texts and containers, and the class of classes. -/
def values : List LanguageClass := [
  { module := "builtins"
    name := "object"
    ancestry := ["object"]
    metaclass := "type"
    attributes := [
      (.operator, ["__repr__ __hash__ __str__ __getattribute__ __setattr__ __delattr__ __lt__",
        "__le__",
        "__eq__ __ne__ __gt__ __ge__ __init__"]),
      (.method, ["__reduce_ex__ __reduce__ __getstate__ __format__ __sizeof__ __dir__"]),
      (.classMethod, ["__subclasshook__ __init_subclass__"]),
      (.creator, ["__new__"]),
      (.computed, ["__class__:type"]),
      (.value, ["__doc__:str"])] },
  { module := "builtins"
    name := "type"
    ancestry := ["type", "object"]
    metaclass := "type"
    attributes := [
      (.operator, ["__repr__ __call__ __getattribute__ __setattr__ __delattr__ __init__ __or__",
        "__ror__"]),
      (.method, ["mro __subclasses__ __instancecheck__ __subclasscheck__ __dir__ __sizeof__"]),
      (.classMethod, ["__prepare__"]),
      (.creator, ["__new__"]),
      (.computed, ["__name__:str __qualname__:str __bases__:tuple __module__:str",
        "__abstractmethods__",
        "__dict__:mappingproxy __doc__:NoneType __text_signature__:NoneType",
        "__annotations__:dict"]),
      (.stored, ["__basicsize__:int __itemsize__:int __flags__:int __weakrefoffset__:int",
        "__base__:type __dictoffset__:int __mro__:tuple"])] },
  { module := "builtins"
    name := "bool"
    ancestry := ["bool", "int", "object"]
    metaclass := "type"
    attributes := [
      (.operator, ["__repr__ __and__ __rand__ __xor__ __rxor__ __or__ __ror__"]),
      (.creator, ["__new__"]),
      (.value, ["__doc__:str"])] },
  { module := "builtins"
    name := "int"
    ancestry := ["int", "object"]
    metaclass := "type"
    attributes := [
      (.operator, ["__repr__ __hash__ __getattribute__ __lt__ __le__ __eq__ __ne__ __gt__ __ge__",
        "__add__ __radd__ __sub__ __rsub__ __mul__ __rmul__ __mod__ __rmod__ __divmod__",
        "__rdivmod__ __pow__ __rpow__ __neg__ __pos__ __abs__ __bool__ __invert__",
        "__lshift__ __rlshift__ __rshift__ __rrshift__ __and__ __rand__ __xor__ __rxor__",
        "__or__ __ror__ __int__ __float__ __floordiv__ __rfloordiv__ __truediv__",
        "__rtruediv__ __index__"]),
      (.method, ["conjugate bit_length bit_count to_bytes as_integer_ratio __trunc__ __floor__",
        "__ceil__ __round__ __getnewargs__ __format__ __sizeof__"]),
      (.classMethod, ["from_bytes"]),
      (.creator, ["__new__"]),
      (.computed, ["real:int imag:int numerator:int denominator:int"]),
      (.value, ["__doc__:str"])] },
  { module := "builtins"
    name := "float"
    ancestry := ["float", "object"]
    metaclass := "type"
    attributes := [
      (.operator, ["__repr__ __hash__ __getattribute__ __lt__ __le__ __eq__ __ne__ __gt__ __ge__",
        "__add__ __radd__ __sub__ __rsub__ __mul__ __rmul__ __mod__ __rmod__ __divmod__",
        "__rdivmod__ __pow__ __rpow__ __neg__ __pos__ __abs__ __bool__ __int__ __float__",
        "__floordiv__ __rfloordiv__ __truediv__ __rtruediv__"]),
      (.method, ["conjugate __trunc__ __floor__ __ceil__ __round__ as_integer_ratio hex is_integer",
        "__getnewargs__ __format__"]),
      (.classMethod, ["fromhex __getformat__"]),
      (.creator, ["__new__"]),
      (.computed, ["real:float imag:float"]),
      (.value, ["__doc__:str"])] },
  { module := "builtins"
    name := "complex"
    ancestry := ["complex", "object"]
    metaclass := "type"
    attributes := [
      (.operator, ["__repr__ __hash__ __getattribute__ __lt__ __le__ __eq__ __ne__ __gt__ __ge__",
        "__add__ __radd__ __sub__ __rsub__ __mul__ __rmul__ __pow__ __rpow__ __neg__",
        "__pos__ __abs__ __bool__ __truediv__ __rtruediv__"]),
      (.method, ["conjugate __complex__ __getnewargs__ __format__"]),
      (.creator, ["__new__"]),
      (.stored, ["real:float imag:float"]),
      (.value, ["__doc__:str"])] },
  { module := "builtins"
    name := "str"
    ancestry := ["str", "object"]
    metaclass := "type"
    attributes := [
      (.operator, ["__repr__ __hash__ __str__ __getattribute__ __lt__ __le__ __eq__ __ne__ __gt__",
        "__ge__ __iter__ __mod__ __rmod__ __len__ __getitem__ __add__ __mul__ __rmul__",
        "__contains__"]),
      (.method, ["encode replace split rsplit join capitalize casefold title center count",
        "expandtabs find partition index ljust lower lstrip rfind rindex rjust rstrip",
        "rpartition splitlines strip swapcase translate upper startswith endswith",
        "removeprefix removesuffix isascii islower isupper istitle isspace isdecimal",
        "isdigit isnumeric isalpha isalnum isidentifier isprintable zfill format",
        "format_map __format__ __sizeof__ __getnewargs__"]),
      (.creator, ["__new__ maketrans"]),
      (.value, ["__doc__:str"])] },
  { module := "builtins"
    name := "bytes"
    ancestry := ["bytes", "object"]
    metaclass := "type"
    attributes := [
      (.operator, ["__repr__ __hash__ __str__ __getattribute__ __lt__ __le__ __eq__ __ne__ __gt__",
        "__ge__ __iter__ __mod__ __rmod__ __len__ __getitem__ __add__ __mul__ __rmul__",
        "__contains__"]),
      (.method, ["__getnewargs__ __bytes__ capitalize center count decode endswith expandtabs find",
        "hex index isalnum isalpha isascii isdigit islower isspace istitle isupper join",
        "ljust lower lstrip partition replace removeprefix removesuffix rfind rindex",
        "rjust rpartition rsplit rstrip split splitlines startswith strip swapcase title",
        "translate upper zfill"]),
      (.classMethod, ["fromhex"]),
      (.creator, ["__new__ maketrans"]),
      (.value, ["__doc__:str"])] },
  { module := "builtins"
    name := "tuple"
    ancestry := ["tuple", "object"]
    metaclass := "type"
    attributes := [
      (.operator, ["__repr__ __hash__ __getattribute__ __lt__ __le__ __eq__ __ne__ __gt__ __ge__",
        "__iter__ __len__ __getitem__ __add__ __mul__ __rmul__ __contains__"]),
      (.method, ["__getnewargs__ index count"]),
      (.classMethod, ["__class_getitem__"]),
      (.creator, ["__new__"]),
      (.value, ["__doc__:str"])] },
  { module := "builtins"
    name := "list"
    ancestry := ["list", "object"]
    metaclass := "type"
    attributes := [
      (.operator, ["__repr__ __getattribute__ __lt__ __le__ __eq__ __ne__ __gt__ __ge__ __iter__",
        "__init__ __len__ __setitem__ __delitem__ __add__ __mul__ __rmul__ __contains__",
        "__iadd__ __imul__"]),
      (.method, ["__getitem__ __reversed__ __sizeof__ clear copy append insert extend pop remove",
        "index count reverse sort"]),
      (.classMethod, ["__class_getitem__"]),
      (.creator, ["__new__"]),
      (.value, ["__hash__:NoneType __doc__:str"])] },
  { module := "builtins"
    name := "dict"
    ancestry := ["dict", "object"]
    metaclass := "type"
    attributes := [
      (.operator, ["__repr__ __getattribute__ __lt__ __le__ __eq__ __ne__ __gt__ __ge__ __iter__",
        "__init__ __or__ __ror__ __ior__ __len__ __setitem__ __delitem__"]),
      (.method, ["__getitem__ __contains__ __sizeof__ get setdefault pop popitem keys items values",
        "update clear copy __reversed__"]),
      (.classMethod, ["fromkeys __class_getitem__"]),
      (.creator, ["__new__"]),
      (.value, ["__hash__:NoneType __doc__:str"])] },
  { module := "builtins"
    name := "set"
    ancestry := ["set", "object"]
    metaclass := "type"
    attributes := [
      (.operator, ["__repr__ __getattribute__ __lt__ __le__ __eq__ __ne__ __gt__ __ge__ __iter__",
        "__init__ __sub__ __rsub__ __and__ __rand__ __xor__ __rxor__ __or__ __ror__",
        "__isub__ __iand__ __ixor__ __ior__ __len__"]),
      (.method, ["__contains__ add clear copy discard difference difference_update intersection",
        "intersection_update isdisjoint issubset issuperset pop __reduce__ remove",
        "__sizeof__ symmetric_difference symmetric_difference_update union update"]),
      (.classMethod, ["__class_getitem__"]),
      (.creator, ["__new__"]),
      (.value, ["__hash__:NoneType __doc__:str"])] },
  { module := "builtins"
    name := "frozenset"
    ancestry := ["frozenset", "object"]
    metaclass := "type"
    attributes := [
      (.operator, ["__repr__ __hash__ __getattribute__ __lt__ __le__ __eq__ __ne__ __gt__ __ge__",
        "__iter__ __sub__ __rsub__ __and__ __rand__ __xor__ __rxor__ __or__ __ror__",
        "__len__"]),
      (.method, ["__contains__ copy difference intersection isdisjoint issubset issuperset",
        "__reduce__ __sizeof__ symmetric_difference union"]),
      (.classMethod, ["__class_getitem__"]),
      (.creator, ["__new__"]),
      (.value, ["__doc__:str"])] },
  { module := "builtins"
    name := "NoneType"
    ancestry := ["NoneType", "object"]
    metaclass := "type"
    attributes := [
      (.operator, ["__repr__ __bool__"]),
      (.creator, ["__new__"]),
      (.value, ["__doc__:NoneType"])] },
  { module := "builtins"
    name := "ellipsis"
    ancestry := ["ellipsis", "object"]
    metaclass := "type"
    attributes := [
      (.operator, ["__repr__ __getattribute__"]),
      (.method, ["__reduce__"]),
      (.creator, ["__new__"]),
      (.value, ["__doc__:NoneType"])] },
  { module := "builtins"
    name := "NotImplementedType"
    ancestry := ["NotImplementedType", "object"]
    metaclass := "type"
    attributes := [
      (.operator, ["__repr__ __bool__"]),
      (.method, ["__reduce__"]),
      (.creator, ["__new__"]),
      (.value, ["__doc__:NoneType"])] },
  { module := "builtins"
    name := "mappingproxy"
    ancestry := ["mappingproxy", "object"]
    metaclass := "type"
    attributes := [
      (.operator, ["__repr__ __str__ __getattribute__ __lt__ __le__ __eq__ __ne__ __gt__ __ge__",
        "__iter__ __or__ __ror__ __ior__ __len__ __getitem__ __contains__"]),
      (.method, ["get keys values items copy __reversed__"]),
      (.classMethod, ["__class_getitem__"]),
      (.creator, ["__new__"]),
      (.value, ["__doc__:NoneType __hash__:NoneType"])] }]

/-- Ranges, views of maps, and what can only be walked. -/
def walks : List LanguageClass := [
  { module := "builtins"
    name := "dict_keys"
    ancestry := ["dict_keys", "object"]
    metaclass := "type"
    attributes := [
      (.operator, ["__repr__ __getattribute__ __lt__ __le__ __eq__ __ne__ __gt__ __ge__",
        "__iter__ __sub__ __rsub__ __and__ __rand__ __xor__ __rxor__ __or__ __ror__",
        "__len__ __contains__"]),
      (.method, ["isdisjoint __reversed__"]),
      (.computed, ["mapping:mappingproxy"]),
      (.value, ["__doc__:NoneType __hash__:NoneType"])] },
  { module := "builtins"
    name := "dict_values"
    ancestry := ["dict_values", "object"]
    metaclass := "type"
    attributes := [
      (.operator, ["__repr__ __getattribute__ __iter__ __len__"]),
      (.method, ["__reversed__"]),
      (.computed, ["mapping:mappingproxy"]),
      (.value, ["__doc__:NoneType"])] },
  { module := "builtins"
    name := "dict_items"
    ancestry := ["dict_items", "object"]
    metaclass := "type"
    attributes := [
      (.operator, ["__repr__ __getattribute__ __lt__ __le__ __eq__ __ne__ __gt__ __ge__",
        "__iter__ __sub__ __rsub__ __and__ __rand__ __xor__ __rxor__ __or__ __ror__",
        "__len__ __contains__"]),
      (.method, ["isdisjoint __reversed__"]),
      (.computed, ["mapping:mappingproxy"]),
      (.value, ["__doc__:NoneType __hash__:NoneType"])] },
  { module := "builtins"
    name := "range"
    ancestry := ["range", "object"]
    metaclass := "type"
    attributes := [
      (.creator, ["__new__"]),
      (.operator, ["__repr__ __hash__ __getattribute__ __lt__ __le__ __eq__ __ne__ __gt__",
        "__ge__ __iter__ __bool__ __len__ __getitem__ __contains__"]),
      (.method, ["__reversed__ __reduce__ count index"]),
      (.stored, ["start:int stop:int step:int"]),
      (.value, ["__doc__:str"])] },
  { module := "builtins"
    name := "slice"
    ancestry := ["slice", "object"]
    metaclass := "type"
    attributes := [
      (.creator, ["__new__"]),
      (.operator, ["__repr__ __getattribute__ __lt__ __le__ __eq__ __ne__ __gt__ __ge__"]),
      (.value, ["__hash__:NoneType __doc__:str"]),
      (.method, ["indices __reduce__"]),
      (.stored, ["start:NoneType stop:int step:NoneType"])] },
  { module := "builtins"
    name := "generator"
    ancestry := ["generator", "object"]
    metaclass := "type"
    attributes := [
      (.operator, ["__repr__ __getattribute__ __iter__ __next__ __del__"]),
      (.method, ["send throw close __sizeof__"]),
      (.stored, ["gi_code:code"]),
      (.computed, ["__name__:str __qualname__:str gi_yieldfrom:NoneType gi_running:bool",
        "gi_frame:frame gi_suspended:bool"]),
      (.value, ["__doc__:NoneType"])] },
  { module := "builtins"
    name := "list_iterator"
    ancestry := ["list_iterator", "object"]
    metaclass := "type"
    attributes := [
      (.operator, ["__getattribute__ __iter__ __next__"]),
      (.method, ["__length_hint__ __reduce__ __setstate__"]),
      (.value, ["__doc__:NoneType"])] },
  { module := "builtins"
    name := "zip"
    ancestry := ["zip", "object"]
    metaclass := "type"
    attributes := [
      (.creator, ["__new__"]),
      (.operator, ["__getattribute__ __iter__ __next__"]),
      (.method, ["__reduce__ __setstate__"]),
      (.value, ["__doc__:str"])] },
  { module := "builtins"
    name := "map"
    ancestry := ["map", "object"]
    metaclass := "type"
    attributes := [
      (.creator, ["__new__"]),
      (.operator, ["__getattribute__ __iter__ __next__"]),
      (.method, ["__reduce__"]),
      (.value, ["__doc__:str"])] },
  { module := "builtins"
    name := "filter"
    ancestry := ["filter", "object"]
    metaclass := "type"
    attributes := [
      (.creator, ["__new__"]),
      (.operator, ["__getattribute__ __iter__ __next__"]),
      (.method, ["__reduce__"]),
      (.value, ["__doc__:str"])] },
  { module := "builtins"
    name := "enumerate"
    ancestry := ["enumerate", "object"]
    metaclass := "type"
    attributes := [
      (.creator, ["__new__"]),
      (.operator, ["__getattribute__ __iter__ __next__"]),
      (.method, ["__reduce__"]),
      (.classMethod, ["__class_getitem__"]),
      (.value, ["__doc__:str"])] },
  { module := "builtins"
    name := "reversed"
    ancestry := ["reversed", "object"]
    metaclass := "type"
    attributes := [
      (.creator, ["__new__"]),
      (.operator, ["__getattribute__ __iter__ __next__"]),
      (.method, ["__length_hint__ __reduce__ __setstate__"]),
      (.value, ["__doc__:str"])] }]

/-- What can be called, and how classes keep it. -/
def routines : List LanguageClass := [
  { module := "builtins"
    name := "function"
    ancestry := ["function", "object"]
    metaclass := "type"
    attributes := [
      (.operator, ["__repr__ __call__ __get__"]),
      (.creator, ["__new__"]),
      (.computed, ["__code__:code __defaults__:NoneType __kwdefaults__:NoneType",
        "__annotations__:dict",
        "__dict__:dict __name__:str __qualname__:str"]),
      (.stored, ["__closure__:NoneType __doc__:NoneType __globals__:dict __module__:str",
        "__builtins__:dict"])] },
  { module := "builtins"
    name := "builtin_function_or_method"
    ancestry := ["builtin_function_or_method", "object"]
    metaclass := "type"
    attributes := [
      (.operator, ["__repr__ __hash__ __call__ __getattribute__ __lt__ __le__ __eq__ __ne__ __gt__",
        "__ge__"]),
      (.method, ["__reduce__"]),
      (.computed, ["__doc__:str __name__:str __qualname__:str __self__:module",
        "__text_signature__:str"]),
      (.stored, ["__module__:str"])] },
  { module := "builtins"
    name := "method_descriptor"
    ancestry := ["method_descriptor", "object"]
    metaclass := "type"
    attributes := [
      (.operator, ["__repr__ __call__ __getattribute__ __get__"]),
      (.method, ["__reduce__"]),
      (.computed, ["__doc__:str __qualname__:str __text_signature__:str"]),
      (.stored, ["__objclass__:type __name__:str"])] },
  { module := "builtins"
    name := "wrapper_descriptor"
    ancestry := ["wrapper_descriptor", "object"]
    metaclass := "type"
    attributes := [
      (.operator, ["__repr__ __call__ __getattribute__ __get__"]),
      (.method, ["__reduce__"]),
      (.computed, ["__doc__:str __qualname__:str __text_signature__:str"]),
      (.stored, ["__objclass__:type __name__:str"])] },
  { module := "builtins"
    name := "method-wrapper"
    ancestry := ["method-wrapper", "object"]
    metaclass := "type"
    attributes := [
      (.operator, ["__repr__ __hash__ __call__ __getattribute__ __lt__ __le__ __eq__ __ne__ __gt__",
        "__ge__"]),
      (.method, ["__reduce__"]),
      (.computed, ["__objclass__:type __name__:str __qualname__:str __doc__:str",
        "__text_signature__:str"]),
      (.stored, ["__self__:str"])] },
  { module := "builtins"
    name := "getset_descriptor"
    ancestry := ["getset_descriptor", "object"]
    metaclass := "type"
    attributes := [
      (.operator, ["__repr__ __getattribute__ __get__ __set__ __delete__"]),
      (.computed, ["__doc__:str __qualname__:str"]),
      (.stored, ["__objclass__:type __name__:str"])] },
  { module := "builtins"
    name := "member_descriptor"
    ancestry := ["member_descriptor", "object"]
    metaclass := "type"
    attributes := [
      (.operator, ["__repr__ __getattribute__ __get__ __set__ __delete__"]),
      (.method, ["__reduce__"]),
      (.computed, ["__doc__:str __qualname__:str"]),
      (.stored, ["__objclass__:type __name__:str"])] },
  { module := "builtins"
    name := "classmethod_descriptor"
    ancestry := ["classmethod_descriptor", "object"]
    metaclass := "type"
    attributes := [
      (.operator, ["__repr__ __call__ __getattribute__ __get__"]),
      (.computed, ["__doc__ __qualname__ __text_signature__"]),
      (.stored, ["__objclass__ __name__"])] },
  { module := "builtins"
    name := "method"
    ancestry := ["method", "object"]
    metaclass := "type"
    attributes := [
      (.operator, ["__repr__ __hash__ __call__ __getattribute__ __setattr__ __delattr__ __lt__",
        "__le__ __eq__ __ne__ __gt__ __ge__"]),
      (.method, ["__reduce__"]),
      (.creator, ["__new__"]),
      (.computed, ["__doc__:NoneType"]),
      (.stored, ["__func__:function __self__:C"])] },
  { module := "types"
    name := "DynamicClassAttribute"
    ancestry := ["DynamicClassAttribute", "object"]
    metaclass := "type"
    attributes := [
      (.function, ["__init__ __get__ __set__ __delete__ getter setter deleter"]),
      (.computed, ["__dict__:dict __weakref__:NoneType"]),
      (.value, ["__module__:str __doc__:str"])] },
  { module := "builtins"
    name := "property"
    ancestry := ["property", "object"]
    metaclass := "type"
    attributes := [
      (.operator, ["__getattribute__ __get__ __set__ __delete__ __init__"]),
      (.method, ["getter setter deleter __set_name__"]),
      (.creator, ["__new__"]),
      (.computed, ["__isabstractmethod__"]),
      (.stored, ["fget fset fdel __doc__"])] },
  { module := "builtins"
    name := "module"
    ancestry := ["module", "object"]
    metaclass := "type"
    attributes := [
      (.operator, ["__repr__ __getattribute__ __setattr__ __delattr__ __init__"]),
      (.method, ["__dir__"]),
      (.creator, ["__new__"]),
      (.computed, ["__annotations__:dict"]),
      (.stored, ["__dict__:dict"]),
      (.value, ["__doc__:str"])] }]

def enumerations : List LanguageClass := [
  { module := "enum"
    name := "EnumType"
    ancestry := ["EnumType", "type", "object"]
    metaclass := "type"
    attributes := [
      (.function, ["__new__ __bool__ __call__ __contains__ __delattr__ __dir__ __getattr__",
        "__getitem__ __iter__ __len__ __repr__ __reversed__ __setattr__ _create_",
        "_convert_"]),
      (.classFunction, ["__prepare__ _check_for_existing_members_ _get_mixins_ _find_data_repr_",
        "_find_data_type_ _find_new_"]),
      (.property, ["__members__:mappingproxy"]),
      (.value, ["__module__:str __doc__:str"])] },
  { module := "enum"
    name := "Enum"
    ancestry := ["Enum", "object"]
    metaclass := "EnumType"
    attributes := [
      (.function, ["__new__ __init__ _generate_next_value_ __repr__ __str__ __dir__ __format__",
        "__hash__ __reduce_ex__ __deepcopy__ __copy__"]),
      (.classFunction, ["_missing_"]),
      (.computed, ["__dict__:dict __weakref__:NoneType"]),
      (.property, ["name:str value"]),
      (.value, ["__module__:str __doc__:str _new_member_:function:Enum.__new__ _use_args_:bool",
        "_member_names_:list _member_map_:dict _value2member_map_:dict",
        "_unhashable_values_:list _member_type_:type _value_repr_:NoneType"]),
      (.own, ["_value_ _name_:str __objclass__:EnumType _sort_order_:int"])] },
  { module := "enum"
    name := "ReprEnum"
    ancestry := ["ReprEnum", "Enum", "object"]
    metaclass := "EnumType"
    attributes := [
      (.value, ["_generate_next_value_:function:Enum._generate_next_value_ __module__:str",
        "__doc__:str _new_member_:builtin_function_or_method:object.__new__",
        "_use_args_:bool _member_names_:list _member_map_:dict _value2member_map_:dict",
        "_unhashable_values_:list _member_type_:type _value_repr_:NoneType",
        "__new__:function:Enum.__new__"])] },
  { module := "enum"
    name := "IntEnum"
    ancestry := ["IntEnum", "int", "ReprEnum", "Enum", "object"]
    metaclass := "EnumType"
    attributes := [
      (.computed, ["__dict__:dict"]),
      (.value, ["_generate_next_value_:function:Enum._generate_next_value_ __module__:str",
        "__doc__:str _new_member_:builtin_function_or_method:int.__new__ _use_args_:bool",
        "_member_names_:list _member_map_:dict _value2member_map_:dict",
        "_unhashable_values_:list _member_type_:type",
        "_value_repr_:wrapper_descriptor:int.__repr__",
        "__format__:method_descriptor:int.__format__",
        "__str__:wrapper_descriptor:int.__repr__ __repr__:function:Enum.__repr__",
        "__new__:function:Enum.__new__"])] },
  { module := "enum"
    name := "StrEnum"
    ancestry := ["StrEnum", "str", "ReprEnum", "Enum", "object"]
    metaclass := "EnumType"
    attributes := [
      (.function, ["_generate_next_value_"]),
      (.computed, ["__dict__:dict __weakref__:NoneType"]),
      (.value, ["__module__:str __doc__:str __new__:function:Enum.__new__",
        "_new_member_:function:StrEnum.__new__ _use_args_:bool _member_names_:list",
        "_member_map_:dict _value2member_map_:dict _unhashable_values_:list",
        "_member_type_:type _value_repr_:wrapper_descriptor:str.__repr__",
        "__format__:method_descriptor:str.__format__",
        "__str__:wrapper_descriptor:str.__str__ __repr__:function:Enum.__repr__",
        "__new_member__:function:StrEnum.__new__"])] },
  { module := "enum"
    name := "Flag"
    ancestry := ["Flag", "Enum", "object"]
    metaclass := "EnumType"
    attributes := [
      (.function, ["_generate_next_value_ __contains__ __iter__ __len__ __repr__ __str__ __bool__",
        "_get_value __or__ __and__ __xor__ __invert__"]),
      (.classFunction, ["_iter_member_by_value_ _iter_member_ _iter_member_by_def_ _missing_"]),
      (.value, ["__module__:str __doc__:str _numeric_repr_:builtin_function_or_method:repr",
        "__rand__:function:Flag.__and__ __ror__:function:Flag.__or__",
        "__rxor__:function:Flag.__xor__",
        "_new_member_:builtin_function_or_method:object.__new__ _use_args_:bool",
        "_member_names_:list _member_map_:dict _value2member_map_:dict",
        "_unhashable_values_:list _member_type_:type _value_repr_:NoneType",
        "_boundary_:FlagBoundary _flag_mask_:int _singles_mask_:int _all_bits_:int",
        "_inverted_:NoneType __new__:function:Enum.__new__"])] }]

def forms : List LanguageClass := [
  { module := "types"
    name := "GenericAlias"
    ancestry := ["GenericAlias", "object"]
    metaclass := "type"
    attributes := [
      (.operator, ["__repr__ __hash__ __call__ __getattribute__ __lt__ __le__ __eq__ __ne__ __gt__",
        "__ge__ __iter__ __or__ __ror__ __getitem__"]),
      (.method, ["__mro_entries__ __instancecheck__ __subclasscheck__ __reduce__ __dir__"]),
      (.creator, ["__new__"]),
      (.computed, ["__parameters__:tuple __typing_unpacked_tuple_args__:NoneType"]),
      (.stored, ["__origin__:type __args__:tuple __unpacked__:bool"]),
      (.value, ["__doc__:str"])] },
  { module := "types"
    name := "UnionType"
    ancestry := ["UnionType", "object"]
    metaclass := "type"
    attributes := [
      (.operator, ["__repr__ __hash__ __getattribute__ __lt__ __le__ __eq__ __ne__ __gt__ __ge__",
        "__or__ __ror__ __getitem__"]),
      (.computed, ["__parameters__:tuple"]),
      (.stored, ["__args__:tuple"]),
      (.value, ["__doc__:str"])] },
  { module := "typing"
    name := "Generic"
    ancestry := ["Generic", "object"]
    metaclass := "type"
    attributes := [
      (.classFunction, ["__class_getitem__ __init_subclass__"]),
      (.value, ["__module__:str __doc__:str __slots__:tuple _is_protocol:bool"])] },
  { module := "typing"
    name := "Any"
    ancestry := ["Any", "object"]
    metaclass := "_AnyMeta"
    attributes := [
      (.function, ["__new__"]),
      (.computed, ["__dict__:dict __weakref__:NoneType"]),
      (.value, ["__module__:str __doc__:str"])] },
  { module := "typing"
    name := "_AnyMeta"
    ancestry := ["_AnyMeta", "type", "object"]
    metaclass := "type"
    attributes := [
      (.function, ["__instancecheck__ __repr__"]),
      (.value, ["__module__:str __doc__:NoneType"])] },
  { module := "typing"
    name := "Annotated"
    ancestry := ["Annotated", "object"]
    metaclass := "type"
    attributes := [
      (.function, ["__new__ _class_getitem_inner"]),
      (.classFunction, ["__class_getitem__ __init_subclass__"]),
      (.value, ["__module__:str __doc__:str __slots__:tuple"])] },
  { module := "typing"
    name := "NewType"
    ancestry := ["NewType", "object"]
    metaclass := "type"
    attributes := [
      (.function, ["__init__ __mro_entries__ __repr__ __reduce__ __or__ __ror__"]),
      (.computed, ["__dict__:dict __weakref__:NoneType"]),
      (.value, ["__module__:str __doc__:str __call__:builtin_function_or_method:_idfunc"]),
      (.own, ["__qualname__:str __name__:str __supertype__:type __module__:str"])] },
  { module := "typing"
    name := "_Final"
    ancestry := ["_Final", "object"]
    metaclass := "type"
    attributes := [
      (.classFunction, ["__init_subclass__"]),
      (.computed, ["__weakref__:NoneType"]),
      (.value, ["__module__:str __doc__:str __slots__:tuple"])] },
  { module := "typing"
    name := "_Immutable"
    ancestry := ["_Immutable", "object"]
    metaclass := "type"
    attributes := [
      (.function, ["__copy__ __deepcopy__"]),
      (.value, ["__module__:str __doc__:str __slots__:tuple"])] },
  { module := "typing"
    name := "_BoundVarianceMixin"
    ancestry := ["_BoundVarianceMixin", "object"]
    metaclass := "type"
    attributes := [
      (.function, ["__init__ __or__ __ror__ __repr__"]),
      (.computed, ["__dict__:dict __weakref__:NoneType"]),
      (.value, ["__module__:str __doc__:str"])] },
  { module := "typing"
    name := "_PickleUsingNameMixin"
    ancestry := ["_PickleUsingNameMixin", "object"]
    metaclass := "type"
    attributes := [
      (.function, ["__reduce__"]),
      (.computed, ["__dict__:dict __weakref__:NoneType"]),
      (.value, ["__module__:str __doc__:str"])] },
  { module := "typing"
    name := "_NotIterable"
    ancestry := ["_NotIterable", "object"]
    metaclass := "type"
    attributes := [
      (.value, ["__module__:str __doc__:str __slots__:tuple __iter__:NoneType"])] },
  { module := "typing"
    name := "_BaseGenericAlias"
    ancestry := ["_BaseGenericAlias", "_Final", "object"]
    metaclass := "type"
    attributes := [
      (.function, ["__init__ __call__ __mro_entries__ __getattr__ __setattr__ __instancecheck__",
        "__subclasscheck__ __dir__"]),
      (.computed, ["__dict__"]),
      (.value, ["__module__:str __doc__:str"])] },
  { module := "typing"
    name := "TypeVar"
    ancestry := ["TypeVar", "_Final", "_Immutable", "_BoundVarianceMixin",
      "_PickleUsingNameMixin", "object"]
    metaclass := "type"
    attributes := [
      (.function, ["__init__ __typing_subst__"]),
      (.computed, ["__dict__:dict"]),
      (.value, ["__module__:str __doc__:str"]),
      (.own, ["__name__:str __covariant__:bool __contravariant__:bool __bound__:NoneType",
        "__constraints__:tuple __module__:str"])] },
  { module := "typing"
    name := "_SpecialForm"
    ancestry := ["_SpecialForm", "_Final", "_NotIterable", "object"]
    metaclass := "type"
    attributes := [
      (.function, ["__init__ __getattr__ __mro_entries__ __repr__ __reduce__ __call__ __or__",
        "__ror__",
        "__instancecheck__ __subclasscheck__ __getitem__"]),
      (.stored, ["__doc__:str _getitem:function _name:str"]),
      (.value, ["__module__:str __slots__:tuple"])] },
  { module := "typing"
    name := "_SpecialGenericAlias"
    ancestry := ["_SpecialGenericAlias", "_NotIterable", "_BaseGenericAlias", "_Final", "object"]
    metaclass := "type"
    attributes := [
      (.function, ["__init__ __getitem__ copy_with __repr__ __subclasscheck__ __reduce__ __or__",
        "__ror__"]),
      (.computed, ["__dict__:dict __weakref__:NoneType"]),
      (.value, ["__module__:str __doc__:NoneType"]),
      (.own, ["_inst:bool _name:str __origin__:type __slots__:NoneType _nparams:int",
        "__doc__:str"])] },
  { module := "typing"
    name := "_GenericAlias"
    ancestry := ["_GenericAlias", "_BaseGenericAlias", "_Final", "object"]
    metaclass := "type"
    attributes := [
      (.function, ["__init__ __eq__ __hash__ __or__ __ror__ __getitem__ _determine_new_args",
        "_make_substitution copy_with __repr__ __reduce__ __mro_entries__ __iter__"]),
      (.value, ["__module__:str __doc__:NoneType"]),
      (.own, ["_inst:bool _name:NoneType __origin__:type __slots__:NoneType __args__:tuple",
        "__parameters__:tuple _paramspec_tvars:bool __module__:str"])] },
  { module := "typing"
    name := "_UnionGenericAlias"
    ancestry := ["_UnionGenericAlias", "_NotIterable", "_GenericAlias", "_BaseGenericAlias",
      "_Final", "object"]
    metaclass := "type"
    attributes := [
      (.function, ["copy_with __eq__ __hash__ __repr__ __instancecheck__ __subclasscheck__",
        "__reduce__"]),
      (.computed, ["__dict__:dict __weakref__:NoneType"]),
      (.value, ["__module__:str __doc__:NoneType"]),
      (.own, ["_inst:bool _name:str __origin__:_SpecialForm __slots__:NoneType __args__:tuple",
        "__parameters__:tuple _paramspec_tvars:bool"])] },
  { module := "typing"
    name := "_LiteralGenericAlias"
    ancestry := ["_LiteralGenericAlias", "_GenericAlias", "_BaseGenericAlias", "_Final", "object"]
    metaclass := "type"
    attributes := [
      (.function, ["__eq__ __hash__"]),
      (.value, ["__module__:str __doc__:NoneType"]),
      (.own, ["_inst:bool _name:NoneType __origin__:_LiteralSpecialForm __slots__:NoneType",
        "__args__:tuple __parameters__:tuple _paramspec_tvars:bool __module__:str"])] },
  { module := "typing"
    name := "_AnnotatedAlias"
    ancestry := ["_AnnotatedAlias", "_NotIterable", "_GenericAlias", "_BaseGenericAlias",
      "_Final", "object"]
    metaclass := "type"
    attributes := [
      (.function, ["__init__ copy_with __repr__ __reduce__ __eq__ __hash__ __getattr__"]),
      (.computed, ["__dict__:dict __weakref__:NoneType"]),
      (.value, ["__module__:str __doc__:str"]),
      (.own, ["_inst:bool _name:NoneType __origin__:type __slots__:NoneType __args__:tuple",
        "__parameters__:tuple _paramspec_tvars:bool __module__:str __metadata__:tuple"])] },
  { module := "typing"
    name := "ForwardRef"
    ancestry := ["ForwardRef", "_Final", "object"]
    metaclass := "type"
    attributes := [
      (.function, ["__init__ _evaluate __eq__ __hash__ __or__ __ror__ __repr__"]),
      (.stored, ["__forward_arg__:str __forward_code__:code __forward_evaluated__:bool",
        "__forward_is_argument__:bool __forward_is_class__:bool",
        "__forward_module__:NoneType __forward_value__:NoneType"]),
      (.value, ["__module__:str __doc__:str __slots__:tuple"])] },
  { module := "dataclasses"
    name := "InitVar"
    ancestry := ["InitVar", "object"]
    metaclass := "type"
    attributes := [
      (.function, ["__init__ __repr__"]),
      (.classFunction, ["__class_getitem__"]),
      (.stored, ["type:type"]),
      (.value, ["__module__:str __slots__:tuple __doc__:NoneType"])] }]

def declarations : List LanguageClass := [
  { module := "dtogen.host"
    name := "Box"
    ancestry := ["Box", "Generic", "object"]
    metaclass := "type"
    attributes := [
      (.computed, ["__dict__:dict __weakref__:NoneType"]),
      (.value, ["__module__:str __doc__:str __orig_bases__:tuple __parameters__:tuple"])] },
  { module := "dtogen.host"
    name := "Rename"
    ancestry := ["Rename", "object"]
    metaclass := "type"
    attributes := [
      (.function, ["__init__ __repr__ __eq__ __setattr__ __delattr__ __hash__"]),
      (.computed, ["__dict__:dict __weakref__:NoneType"]),
      (.value, ["__module__:str __annotations__:dict __doc__:str",
        "__dataclass_params__:_DataclassParams __dataclass_fields__:dict",
        "__match_args__:tuple"]),
      (.own, ["json_name:str"])] },
  { module := "dtogen.host"
    name := "VariantDecl"
    ancestry := ["VariantDecl", "object"]
    metaclass := "type"
    attributes := [
      (.function, ["__init__ __repr__ __eq__ __setattr__ __delattr__ __hash__"]),
      (.computed, ["__dict__:dict __weakref__:NoneType"]),
      (.value, ["__module__:str __annotations__:dict __doc__:str slots:tuple fields:tuple",
        "rename:NoneType __dataclass_params__:_DataclassParams __dataclass_fields__:dict",
        "__match_args__:tuple"]),
      (.own, ["shape:str slots:tuple fields:tuple rename:NoneType"])] },
  { module := "dataclasses"
    name := "_DataclassParams"
    ancestry := ["_DataclassParams", "object"]
    metaclass := "type"
    attributes := [
      (.function, ["__init__ __repr__"]),
      (.stored, ["eq:bool frozen:bool init:bool order:bool repr:bool unsafe_hash:bool"]),
      (.value, ["__module__:str __slots__:tuple __doc__:NoneType"])] },
  { module := "dataclasses"
    name := "Field"
    ancestry := ["Field", "object"]
    metaclass := "type"
    attributes := [
      (.value, ["__module__:str __slots__:tuple __doc__:NoneType"]),
      (.function, ["__init__ __repr__ __set_name__"]),
      (.classFunction, ["__class_getitem__"]),
      (.stored, ["_field_type:_FIELD_BASE compare:bool default:_MISSING_TYPE",
        "default_factory:_MISSING_TYPE hash:NoneType init:bool kw_only:bool",
        "metadata:mappingproxy name:str repr:bool type:type"])] },
  { module := "dataclasses"
    name := "_MISSING_TYPE"
    ancestry := ["_MISSING_TYPE", "object"]
    metaclass := "type"
    attributes := [
      (.value, ["__module__:str __doc__:NoneType"]),
      (.computed, ["__dict__:dict __weakref__:NoneType"])] }]

/-- The classes of the language whose attributes are known. -/
def all : List LanguageClass :=
  values ++ walks ++ routines ++ enumerations ++ forms ++ declarations

def find? (name : String) : Option LanguageClass :=
  all.find? (·.name == name)

end LanguageClass

end WireModel
