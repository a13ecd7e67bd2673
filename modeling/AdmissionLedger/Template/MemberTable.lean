import AdmissionLedger.Template.Member

/-!
# Members of values

What can be looked up in the values that a template reaches, kind by kind, with the
descriptions that are shown when they are asked for.

## Main definitions

* `Kind.members` — the members that a kind declares, in their order.
* `Kind.facts` — what is known of a kind as a whole.
-/

namespace AdmissionLedger.Template

namespace MemberTable

/-- The members of anything. -/
def rootMembers : List Member :=
  [
   ⟨"__new__", .maker, some "($type, *args, **kwargs)",
    ["Create and return a new object.  See help(type) for accurate signature."]⟩,
   ⟨"__repr__", .slot, some "($self, /)", ["Return repr(self)."]⟩,
   ⟨"__hash__", .slot, some "($self, /)", ["Return hash(self)."]⟩,
   ⟨"__str__", .slot, some "($self, /)", ["Return str(self)."]⟩,
   ⟨"__getattribute__", .slot, some "($self, name, /)", ["Return getattr(self, name)."]⟩,
   ⟨"__setattr__", .slot, some "($self, name, value, /)",
    ["Implement setattr(self, name, value)."]⟩,
   ⟨"__delattr__", .slot, some "($self, name, /)", ["Implement delattr(self, name)."]⟩,
   ⟨"__lt__", .slot, some "($self, value, /)", ["Return self<value."]⟩,
   ⟨"__le__", .slot, some "($self, value, /)", ["Return self<=value."]⟩,
   ⟨"__eq__", .slot, some "($self, value, /)", ["Return self==value."]⟩,
   ⟨"__ne__", .slot, some "($self, value, /)", ["Return self!=value."]⟩,
   ⟨"__gt__", .slot, some "($self, value, /)", ["Return self>value."]⟩,
   ⟨"__ge__", .slot, some "($self, value, /)", ["Return self>=value."]⟩,
   ⟨"__init__", .slot, some "($self, /, *args, **kwargs)",
    ["Initialize self.  See help(type(self)) for accurate signature."]⟩,
   ⟨"__reduce_ex__", .operation, some "($self, protocol, /)", ["Helper for pickle."]⟩,
   ⟨"__reduce__", .operation, some "($self, /)", ["Helper for pickle."]⟩,
   ⟨"__getstate__", .operation, some "($self, /)", ["Helper for pickle."]⟩,
   ⟨"__subclasshook__", .shared, none,
    ["Abstract classes can override this to customize issubclass().", "",
    "This is invoked early on by abc.ABCMeta.__subclasscheck__().",
    "It should return True, False or NotImplemented.  If it returns",
    "NotImplemented, the normal algorithm is used.  Otherwise, it",
    "overrides the normal algorithm (and the outcome is cached).", ""]⟩,
   ⟨"__init_subclass__", .shared, none, ["This method is called when a class is subclassed.", "",
    "The default implementation does nothing. It may be", "overridden to extend subclasses.", ""]⟩,
   ⟨"__format__", .operation, some "($self, format_spec, /)", ["Default object formatter."]⟩,
   ⟨"__sizeof__", .operation, some "($self, /)", ["Size of object in memory, in bytes."]⟩,
   ⟨"__dir__", .operation, some "($self, /)", ["Default dir() implementation."]⟩,
   ⟨"__class__", .computed, none, ["the object's class"]⟩,
   ⟨"__doc__", .documentation, none, []⟩]

/-- The members of kinds. -/
def kindMembers : List Member :=
  [
   ⟨"__new__", .maker, some "($type, *args, **kwargs)",
    ["Create and return a new object.  See help(type) for accurate signature."]⟩,
   ⟨"__repr__", .slot, some "($self, /)", ["Return repr(self)."]⟩,
   ⟨"__call__", .slot, some "($self, /, *args, **kwargs)", ["Call self as a function."]⟩,
   ⟨"__getattribute__", .slot, some "($self, name, /)", ["Return getattr(self, name)."]⟩,
   ⟨"__setattr__", .slot, some "($self, name, value, /)",
    ["Implement setattr(self, name, value)."]⟩,
   ⟨"__delattr__", .slot, some "($self, name, /)", ["Implement delattr(self, name)."]⟩,
   ⟨"__init__", .slot, some "($self, /, *args, **kwargs)",
    ["Initialize self.  See help(type(self)) for accurate signature."]⟩,
   ⟨"__or__", .slot, some "($self, value, /)", ["Return self|value."]⟩,
   ⟨"__ror__", .slot, some "($self, value, /)", ["Return value|self."]⟩,
   ⟨"mro", .operation, some "($self, /)", ["Return a type's method resolution order."]⟩,
   ⟨"__subclasses__", .operation, some "($self, /)", ["Return a list of immediate subclasses."]⟩,
   ⟨"__prepare__", .shared, none, ["__prepare__() -> dict",
    "used to create the namespace for the class statement"]⟩,
   ⟨"__instancecheck__", .operation, some "($self, instance, /)",
    ["Check if an object is an instance."]⟩,
   ⟨"__subclasscheck__", .operation, some "($self, subclass, /)",
    ["Check if a class is a subclass."]⟩,
   ⟨"__dir__", .operation, some "($self, /)", ["Specialized __dir__ implementation for types."]⟩,
   ⟨"__sizeof__", .operation, some "($self, /)", ["Return memory consumption of the type object."]⟩,
   ⟨"__basicsize__", .stored, none, []⟩,
   ⟨"__itemsize__", .stored, none, []⟩,
   ⟨"__flags__", .stored, none, []⟩,
   ⟨"__weakrefoffset__", .stored, none, []⟩,
   ⟨"__base__", .stored, none, []⟩,
   ⟨"__dictoffset__", .stored, none, []⟩,
   ⟨"__mro__", .stored, none, []⟩,
   ⟨"__name__", .computed, none, []⟩,
   ⟨"__qualname__", .computed, none, []⟩,
   ⟨"__bases__", .computed, none, []⟩,
   ⟨"__module__", .computed, none, []⟩,
   ⟨"__abstractmethods__", .computed, none, []⟩,
   ⟨"__dict__", .computed, none, []⟩,
   ⟨"__doc__", .computed, none, []⟩,
   ⟨"__text_signature__", .computed, none, []⟩,
   ⟨"__annotations__", .computed, none, []⟩]

/-- The members of texts. -/
def textMembers : List Member :=
  [
   ⟨"__new__", .maker, some "($type, *args, **kwargs)",
    ["Create and return a new object.  See help(type) for accurate signature."]⟩,
   ⟨"__repr__", .slot, some "($self, /)", ["Return repr(self)."]⟩,
   ⟨"__hash__", .slot, some "($self, /)", ["Return hash(self)."]⟩,
   ⟨"__str__", .slot, some "($self, /)", ["Return str(self)."]⟩,
   ⟨"__getattribute__", .slot, some "($self, name, /)", ["Return getattr(self, name)."]⟩,
   ⟨"__lt__", .slot, some "($self, value, /)", ["Return self<value."]⟩,
   ⟨"__le__", .slot, some "($self, value, /)", ["Return self<=value."]⟩,
   ⟨"__eq__", .slot, some "($self, value, /)", ["Return self==value."]⟩,
   ⟨"__ne__", .slot, some "($self, value, /)", ["Return self!=value."]⟩,
   ⟨"__gt__", .slot, some "($self, value, /)", ["Return self>value."]⟩,
   ⟨"__ge__", .slot, some "($self, value, /)", ["Return self>=value."]⟩,
   ⟨"__iter__", .slot, some "($self, /)", ["Implement iter(self)."]⟩,
   ⟨"__mod__", .slot, some "($self, value, /)", ["Return self%value."]⟩,
   ⟨"__rmod__", .slot, some "($self, value, /)", ["Return value%self."]⟩,
   ⟨"__len__", .slot, some "($self, /)", ["Return len(self)."]⟩,
   ⟨"__getitem__", .slot, some "($self, key, /)", ["Return self[key]."]⟩,
   ⟨"__add__", .slot, some "($self, value, /)", ["Return self+value."]⟩,
   ⟨"__mul__", .slot, some "($self, value, /)", ["Return self*value."]⟩,
   ⟨"__rmul__", .slot, some "($self, value, /)", ["Return value*self."]⟩,
   ⟨"__contains__", .slot, some "($self, key, /)", ["Return key in self."]⟩,
   ⟨"encode", .operation, some "($self, /, encoding='utf-8', errors='strict')",
    ["Encode the string using the codec registered for encoding.", "", "  encoding",
    "    The encoding in which to encode the string.", "  errors",
    "    The error handling scheme to use for encoding errors.",
    "    The default is 'strict' meaning that encoding errors raise a",
    "    UnicodeEncodeError.  Other possible values are 'ignore', 'replace' and",
    "    'xmlcharrefreplace' as well as any other name registered with",
    "    codecs.register_error that can handle UnicodeEncodeErrors."]⟩,
   ⟨"replace", .operation, some "($self, old, new, count=-1, /)",
    ["Return a copy with all occurrences of substring old replaced by new.", "", "  count",
    "    Maximum number of occurrences to replace.",
    "    -1 (the default value) means replace all occurrences.", "",
    "If the optional argument count is given, only the first count occurrences are", "replaced."]⟩,
   ⟨"split", .operation, some "($self, /, sep=None, maxsplit=-1)",
    ["Return a list of the substrings in the string, using sep as the separator string.", "",
    "  sep", "    The separator used to split the string.", "",
    "    When set to None (the default value), will split on any whitespace",
    "    character (including \\n \\r \\t \\f and spaces) and will discard",
    "    empty strings from the result.", "  maxsplit", "    Maximum number of splits.",
    "    -1 (the default value) means no limit.", "",
    "Splitting starts at the front of the string and works to the end.", "",
    "Note, str.split() is mainly useful for data that has been intentionally",
    "delimited.  With natural text that includes punctuation, consider using",
    "the regular expression module."]⟩,
   ⟨"rsplit", .operation, some "($self, /, sep=None, maxsplit=-1)",
    ["Return a list of the substrings in the string, using sep as the separator string.", "",
    "  sep", "    The separator used to split the string.", "",
    "    When set to None (the default value), will split on any whitespace",
    "    character (including \\n \\r \\t \\f and spaces) and will discard",
    "    empty strings from the result.", "  maxsplit", "    Maximum number of splits.",
    "    -1 (the default value) means no limit.", "",
    "Splitting starts at the end of the string and works to the front."]⟩,
   ⟨"join", .operation, some "($self, iterable, /)", ["Concatenate any number of strings.", "",
    "The string whose method is called is inserted in between each given string.",
    "The result is returned as a new string.", "",
    "Example: '.'.join(['ab', 'pq', 'rs']) -> 'ab.pq.rs'"]⟩,
   ⟨"capitalize", .operation, some "($self, /)", ["Return a capitalized version of the string.",
    "", "More specifically, make the first character have upper case and the rest lower", "case."]⟩,
   ⟨"casefold", .operation, some "($self, /)",
    ["Return a version of the string suitable for caseless comparisons."]⟩,
   ⟨"title", .operation, some "($self, /)",
    ["Return a version of the string where each word is titlecased.", "",
    "More specifically, words start with uppercased characters and all remaining",
    "cased characters have lower case."]⟩,
   ⟨"center", .operation, some "($self, width, fillchar=' ', /)",
    ["Return a centered string of length width.", "",
    "Padding is done using the specified fill character (default is a space)."]⟩,
   ⟨"count", .operation, none, ["S.count(sub[, start[, end]]) -> int", "",
    "Return the number of non-overlapping occurrences of substring sub in",
    "string S[start:end].  Optional arguments start and end are",
    "interpreted as in slice notation."]⟩,
   ⟨"expandtabs", .operation, some "($self, /, tabsize=8)",
    ["Return a copy where all tab characters are expanded using spaces.", "",
    "If tabsize is not given, a tab size of 8 characters is assumed."]⟩,
   ⟨"find", .operation, none, ["S.find(sub[, start[, end]]) -> int", "",
    "Return the lowest index in S where substring sub is found,",
    "such that sub is contained within S[start:end].  Optional",
    "arguments start and end are interpreted as in slice notation.", "", "Return -1 on failure."]⟩,
   ⟨"partition", .operation, some "($self, sep, /)",
    ["Partition the string into three parts using the given separator.", "",
    "This will search for the separator in the string.  If the separator is found,",
    "returns a 3-tuple containing the part before the separator, the separator",
    "itself, and the part after it.", "",
    "If the separator is not found, returns a 3-tuple containing the original string",
    "and two empty strings."]⟩,
   ⟨"index", .operation, none, ["S.index(sub[, start[, end]]) -> int", "",
    "Return the lowest index in S where substring sub is found,",
    "such that sub is contained within S[start:end].  Optional",
    "arguments start and end are interpreted as in slice notation.", "",
    "Raises ValueError when the substring is not found."]⟩,
   ⟨"ljust", .operation, some "($self, width, fillchar=' ', /)",
    ["Return a left-justified string of length width.", "",
    "Padding is done using the specified fill character (default is a space)."]⟩,
   ⟨"lower", .operation, some "($self, /)",
    ["Return a copy of the string converted to lowercase."]⟩,
   ⟨"lstrip", .operation, some "($self, chars=None, /)",
    ["Return a copy of the string with leading whitespace removed.", "",
    "If chars is given and not None, remove characters in chars instead."]⟩,
   ⟨"rfind", .operation, none, ["S.rfind(sub[, start[, end]]) -> int", "",
    "Return the highest index in S where substring sub is found,",
    "such that sub is contained within S[start:end].  Optional",
    "arguments start and end are interpreted as in slice notation.", "", "Return -1 on failure."]⟩,
   ⟨"rindex", .operation, none, ["S.rindex(sub[, start[, end]]) -> int", "",
    "Return the highest index in S where substring sub is found,",
    "such that sub is contained within S[start:end].  Optional",
    "arguments start and end are interpreted as in slice notation.", "",
    "Raises ValueError when the substring is not found."]⟩,
   ⟨"rjust", .operation, some "($self, width, fillchar=' ', /)",
    ["Return a right-justified string of length width.", "",
    "Padding is done using the specified fill character (default is a space)."]⟩,
   ⟨"rstrip", .operation, some "($self, chars=None, /)",
    ["Return a copy of the string with trailing whitespace removed.", "",
    "If chars is given and not None, remove characters in chars instead."]⟩,
   ⟨"rpartition", .operation, some "($self, sep, /)",
    ["Partition the string into three parts using the given separator.", "",
    "This will search for the separator in the string, starting at the end. If",
    "the separator is found, returns a 3-tuple containing the part before the",
    "separator, the separator itself, and the part after it.", "",
    "If the separator is not found, returns a 3-tuple containing two empty strings",
    "and the original string."]⟩,
   ⟨"splitlines", .operation, some "($self, /, keepends=False)",
    ["Return a list of the lines in the string, breaking at line boundaries.", "",
    "Line breaks are not included in the resulting list unless keepends is given and", "true."]⟩,
   ⟨"strip", .operation, some "($self, chars=None, /)",
    ["Return a copy of the string with leading and trailing whitespace removed.", "",
    "If chars is given and not None, remove characters in chars instead."]⟩,
   ⟨"swapcase", .operation, some "($self, /)",
    ["Convert uppercase characters to lowercase and lowercase characters to uppercase."]⟩,
   ⟨"translate", .operation, some "($self, table, /)",
    ["Replace each character in the string using the given translation table.", "", "  table",
    "    Translation table, which must be a mapping of Unicode ordinals to",
    "    Unicode ordinals, strings, or None.", "",
    "The table must implement lookup/indexing via __getitem__, for instance a",
    "dictionary or list.  If this operation raises LookupError, the character is",
    "left untouched.  Characters mapped to None are deleted."]⟩,
   ⟨"upper", .operation, some "($self, /)",
    ["Return a copy of the string converted to uppercase."]⟩,
   ⟨"startswith", .operation, none, ["S.startswith(prefix[, start[, end]]) -> bool", "",
    "Return True if S starts with the specified prefix, False otherwise.",
    "With optional start, test S beginning at that position.",
    "With optional end, stop comparing S at that position.",
    "prefix can also be a tuple of strings to try."]⟩,
   ⟨"endswith", .operation, none, ["S.endswith(suffix[, start[, end]]) -> bool", "",
    "Return True if S ends with the specified suffix, False otherwise.",
    "With optional start, test S beginning at that position.",
    "With optional end, stop comparing S at that position.",
    "suffix can also be a tuple of strings to try."]⟩,
   ⟨"removeprefix", .operation, some "($self, prefix, /)",
    ["Return a str with the given prefix string removed if present.", "",
    "If the string starts with the prefix string, return string[len(prefix):].",
    "Otherwise, return a copy of the original string."]⟩,
   ⟨"removesuffix", .operation, some "($self, suffix, /)",
    ["Return a str with the given suffix string removed if present.", "",
    "If the string ends with the suffix string and that suffix is not empty,",
    "return string[:-len(suffix)]. Otherwise, return a copy of the original", "string."]⟩,
   ⟨"isascii", .operation, some "($self, /)",
    ["Return True if all characters in the string are ASCII, False otherwise.", "",
    "ASCII characters have code points in the range U+0000-U+007F.", "Empty string is ASCII too."]⟩,
   ⟨"islower", .operation, some "($self, /)",
    ["Return True if the string is a lowercase string, False otherwise.", "",
    "A string is lowercase if all cased characters in the string are lowercase and",
    "there is at least one cased character in the string."]⟩,
   ⟨"isupper", .operation, some "($self, /)",
    ["Return True if the string is an uppercase string, False otherwise.", "",
    "A string is uppercase if all cased characters in the string are uppercase and",
    "there is at least one cased character in the string."]⟩,
   ⟨"istitle", .operation, some "($self, /)",
    ["Return True if the string is a title-cased string, False otherwise.", "",
    "In a title-cased string, upper- and title-case characters may only",
    "follow uncased characters and lowercase characters only cased ones."]⟩,
   ⟨"isspace", .operation, some "($self, /)",
    ["Return True if the string is a whitespace string, False otherwise.", "",
    "A string is whitespace if all characters in the string are whitespace and there",
    "is at least one character in the string."]⟩,
   ⟨"isdecimal", .operation, some "($self, /)",
    ["Return True if the string is a decimal string, False otherwise.", "",
    "A string is a decimal string if all characters in the string are decimal and",
    "there is at least one character in the string."]⟩,
   ⟨"isdigit", .operation, some "($self, /)",
    ["Return True if the string is a digit string, False otherwise.", "",
    "A string is a digit string if all characters in the string are digits and there",
    "is at least one character in the string."]⟩,
   ⟨"isnumeric", .operation, some "($self, /)",
    ["Return True if the string is a numeric string, False otherwise.", "",
    "A string is numeric if all characters in the string are numeric and there is at",
    "least one character in the string."]⟩,
   ⟨"isalpha", .operation, some "($self, /)",
    ["Return True if the string is an alphabetic string, False otherwise.", "",
    "A string is alphabetic if all characters in the string are alphabetic and there",
    "is at least one character in the string."]⟩,
   ⟨"isalnum", .operation, some "($self, /)",
    ["Return True if the string is an alpha-numeric string, False otherwise.", "",
    "A string is alpha-numeric if all characters in the string are alpha-numeric and",
    "there is at least one character in the string."]⟩,
   ⟨"isidentifier", .operation, some "($self, /)",
    ["Return True if the string is a valid Python identifier, False otherwise.", "",
    "Call keyword.iskeyword(s) to test whether string s is a reserved identifier,",
    "such as \"def\" or \"class\"."]⟩,
   ⟨"isprintable", .operation, some "($self, /)",
    ["Return True if the string is printable, False otherwise.", "",
    "A string is printable if all of its characters are considered printable in",
    "repr() or if it is empty."]⟩,
   ⟨"zfill", .operation, some "($self, width, /)",
    ["Pad a numeric string with zeros on the left, to fill a field of the given width.", "",
    "The string is never truncated."]⟩,
   ⟨"format", .operation, none, ["S.format(*args, **kwargs) -> str", "",
    "Return a formatted version of S, using substitutions from args and kwargs.",
    "The substitutions are identified by braces ('\x7b' and '\x7d')."]⟩,
   ⟨"format_map", .operation, none, ["S.format_map(mapping) -> str", "",
    "Return a formatted version of S, using substitutions from mapping.",
    "The substitutions are identified by braces ('\x7b' and '\x7d')."]⟩,
   ⟨"__format__", .operation, some "($self, format_spec, /)",
    ["Return a formatted version of the string as described by format_spec."]⟩,
   ⟨"maketrans", .static, some "(x, y=<unrepresentable>, z=<unrepresentable>, /)",
    ["Return a translation table usable for str.translate().", "",
    "If there is only one argument, it must be a dictionary mapping Unicode",
    "ordinals (integers) or characters to Unicode ordinals, strings or None.",
    "Character keys will be then converted to ordinals.",
    "If there are two arguments, they must be strings of equal length, and",
    "in the resulting dictionary, each character in x will be mapped to the",
    "character at the same position in y. If there is a third argument, it",
    "must be a string, whose characters will be mapped to None in the result."]⟩,
   ⟨"__sizeof__", .operation, some "($self, /)",
    ["Return the size of the string in memory, in bytes."]⟩,
   ⟨"__getnewargs__", .operation, none, []⟩,
   ⟨"__doc__", .documentation, none, []⟩]

/-- The members of sequences. -/
def sequenceMembers : List Member :=
  [
   ⟨"__new__", .maker, some "($type, *args, **kwargs)",
    ["Create and return a new object.  See help(type) for accurate signature."]⟩,
   ⟨"__repr__", .slot, some "($self, /)", ["Return repr(self)."]⟩,
   ⟨"__hash__", .slot, some "($self, /)", ["Return hash(self)."]⟩,
   ⟨"__getattribute__", .slot, some "($self, name, /)", ["Return getattr(self, name)."]⟩,
   ⟨"__lt__", .slot, some "($self, value, /)", ["Return self<value."]⟩,
   ⟨"__le__", .slot, some "($self, value, /)", ["Return self<=value."]⟩,
   ⟨"__eq__", .slot, some "($self, value, /)", ["Return self==value."]⟩,
   ⟨"__ne__", .slot, some "($self, value, /)", ["Return self!=value."]⟩,
   ⟨"__gt__", .slot, some "($self, value, /)", ["Return self>value."]⟩,
   ⟨"__ge__", .slot, some "($self, value, /)", ["Return self>=value."]⟩,
   ⟨"__iter__", .slot, some "($self, /)", ["Implement iter(self)."]⟩,
   ⟨"__len__", .slot, some "($self, /)", ["Return len(self)."]⟩,
   ⟨"__getitem__", .slot, some "($self, key, /)", ["Return self[key]."]⟩,
   ⟨"__add__", .slot, some "($self, value, /)", ["Return self+value."]⟩,
   ⟨"__mul__", .slot, some "($self, value, /)", ["Return self*value."]⟩,
   ⟨"__rmul__", .slot, some "($self, value, /)", ["Return value*self."]⟩,
   ⟨"__contains__", .slot, some "($self, key, /)", ["Return key in self."]⟩,
   ⟨"__getnewargs__", .operation, some "($self, /)", []⟩,
   ⟨"index", .operation, some "($self, value, start=0, stop=sys.maxsize, /)",
    ["Return first index of value.", "", "Raises ValueError if the value is not present."]⟩,
   ⟨"count", .operation, some "($self, value, /)", ["Return number of occurrences of value."]⟩,
   ⟨"__class_getitem__", .shared, none, ["See PEP 585"]⟩,
   ⟨"__doc__", .documentation, none, []⟩]

/-- The members of numbers. -/
def numberMembers : List Member :=
  [
   ⟨"__new__", .maker, some "($type, *args, **kwargs)",
    ["Create and return a new object.  See help(type) for accurate signature."]⟩,
   ⟨"__repr__", .slot, some "($self, /)", ["Return repr(self)."]⟩,
   ⟨"__hash__", .slot, some "($self, /)", ["Return hash(self)."]⟩,
   ⟨"__getattribute__", .slot, some "($self, name, /)", ["Return getattr(self, name)."]⟩,
   ⟨"__lt__", .slot, some "($self, value, /)", ["Return self<value."]⟩,
   ⟨"__le__", .slot, some "($self, value, /)", ["Return self<=value."]⟩,
   ⟨"__eq__", .slot, some "($self, value, /)", ["Return self==value."]⟩,
   ⟨"__ne__", .slot, some "($self, value, /)", ["Return self!=value."]⟩,
   ⟨"__gt__", .slot, some "($self, value, /)", ["Return self>value."]⟩,
   ⟨"__ge__", .slot, some "($self, value, /)", ["Return self>=value."]⟩,
   ⟨"__add__", .slot, some "($self, value, /)", ["Return self+value."]⟩,
   ⟨"__radd__", .slot, some "($self, value, /)", ["Return value+self."]⟩,
   ⟨"__sub__", .slot, some "($self, value, /)", ["Return self-value."]⟩,
   ⟨"__rsub__", .slot, some "($self, value, /)", ["Return value-self."]⟩,
   ⟨"__mul__", .slot, some "($self, value, /)", ["Return self*value."]⟩,
   ⟨"__rmul__", .slot, some "($self, value, /)", ["Return value*self."]⟩,
   ⟨"__mod__", .slot, some "($self, value, /)", ["Return self%value."]⟩,
   ⟨"__rmod__", .slot, some "($self, value, /)", ["Return value%self."]⟩,
   ⟨"__divmod__", .slot, some "($self, value, /)", ["Return divmod(self, value)."]⟩,
   ⟨"__rdivmod__", .slot, some "($self, value, /)", ["Return divmod(value, self)."]⟩,
   ⟨"__pow__", .slot, some "($self, value, mod=None, /)", ["Return pow(self, value, mod)."]⟩,
   ⟨"__rpow__", .slot, some "($self, value, mod=None, /)", ["Return pow(value, self, mod)."]⟩,
   ⟨"__neg__", .slot, some "($self, /)", ["-self"]⟩,
   ⟨"__pos__", .slot, some "($self, /)", ["+self"]⟩,
   ⟨"__abs__", .slot, some "($self, /)", ["abs(self)"]⟩,
   ⟨"__bool__", .slot, some "($self, /)", ["True if self else False"]⟩,
   ⟨"__invert__", .slot, some "($self, /)", ["~self"]⟩,
   ⟨"__lshift__", .slot, some "($self, value, /)", ["Return self<<value."]⟩,
   ⟨"__rlshift__", .slot, some "($self, value, /)", ["Return value<<self."]⟩,
   ⟨"__rshift__", .slot, some "($self, value, /)", ["Return self>>value."]⟩,
   ⟨"__rrshift__", .slot, some "($self, value, /)", ["Return value>>self."]⟩,
   ⟨"__and__", .slot, some "($self, value, /)", ["Return self&value."]⟩,
   ⟨"__rand__", .slot, some "($self, value, /)", ["Return value&self."]⟩,
   ⟨"__xor__", .slot, some "($self, value, /)", ["Return self^value."]⟩,
   ⟨"__rxor__", .slot, some "($self, value, /)", ["Return value^self."]⟩,
   ⟨"__or__", .slot, some "($self, value, /)", ["Return self|value."]⟩,
   ⟨"__ror__", .slot, some "($self, value, /)", ["Return value|self."]⟩,
   ⟨"__int__", .slot, some "($self, /)", ["int(self)"]⟩,
   ⟨"__float__", .slot, some "($self, /)", ["float(self)"]⟩,
   ⟨"__floordiv__", .slot, some "($self, value, /)", ["Return self//value."]⟩,
   ⟨"__rfloordiv__", .slot, some "($self, value, /)", ["Return value//self."]⟩,
   ⟨"__truediv__", .slot, some "($self, value, /)", ["Return self/value."]⟩,
   ⟨"__rtruediv__", .slot, some "($self, value, /)", ["Return value/self."]⟩,
   ⟨"__index__", .slot, some "($self, /)",
    ["Return self converted to an integer, if self is suitable for use as an index into a list."]⟩,
   ⟨"conjugate", .operation, none, ["Returns self, the complex conjugate of any int."]⟩,
   ⟨"bit_length", .operation, some "($self, /)",
    ["Number of bits necessary to represent self in binary.", "", ">>> bin(37)", "'0b100101'",
    ">>> (37).bit_length()", "6"]⟩,
   ⟨"bit_count", .operation, some "($self, /)",
    ["Number of ones in the binary representation of the absolute value of self.", "",
    "Also known as the population count.", "", ">>> bin(13)", "'0b1101'", ">>> (13).bit_count()",
    "3"]⟩,
   ⟨"to_bytes", .operation, some "($self, /, length=1, byteorder='big', *, signed=False)",
    ["Return an array of bytes representing an integer.", "", "  length",
    "    Length of bytes object to use.  An OverflowError is raised if the",
    "    integer is not representable with the given number of bytes.  Default",
    "    is length 1.", "  byteorder",
    "    The byte order used to represent the integer.  If byteorder is 'big',",
    "    the most significant byte is at the beginning of the byte array.  If",
    "    byteorder is 'little', the most significant byte is at the end of the",
    "    byte array.  To request the native byte order of the host system, use",
    "    `sys.byteorder' as the byte order value.  Default is to use 'big'.", "  signed",
    "    Determines whether two's complement is used to represent the integer.",
    "    If signed is False and a negative integer is given, an OverflowError", "    is raised."]⟩,
   ⟨"from_bytes", .shared, some "($type, /, bytes, byteorder='big', *, signed=False)",
    ["Return the integer represented by the given array of bytes.", "", "  bytes",
    "    Holds the array of bytes to convert.  The argument must either",
    "    support the buffer protocol or be an iterable object producing bytes.",
    "    Bytes and bytearray are examples of built-in objects that support the",
    "    buffer protocol.", "  byteorder",
    "    The byte order used to represent the integer.  If byteorder is 'big',",
    "    the most significant byte is at the beginning of the byte array.  If",
    "    byteorder is 'little', the most significant byte is at the end of the",
    "    byte array.  To request the native byte order of the host system, use",
    "    `sys.byteorder' as the byte order value.  Default is to use 'big'.", "  signed",
    "    Indicates whether two's complement is used to represent the integer."]⟩,
   ⟨"as_integer_ratio", .operation, some "($self, /)", ["Return integer ratio.", "",
    "Return a pair of integers, whose ratio is exactly equal to the original int",
    "and with a positive denominator.", "", ">>> (10).as_integer_ratio()", "(10, 1)",
    ">>> (-10).as_integer_ratio()", "(-10, 1)", ">>> (0).as_integer_ratio()", "(0, 1)"]⟩,
   ⟨"__trunc__", .operation, none, ["Truncating an Integral returns itself."]⟩,
   ⟨"__floor__", .operation, none, ["Flooring an Integral returns itself."]⟩,
   ⟨"__ceil__", .operation, none, ["Ceiling of an Integral returns itself."]⟩,
   ⟨"__round__", .operation, some "($self, ndigits=<unrepresentable>, /)",
    ["Rounding an Integral returns itself.", "",
    "Rounding with an ndigits argument also returns an integer."]⟩,
   ⟨"__getnewargs__", .operation, some "($self, /)", []⟩,
   ⟨"__format__", .operation, some "($self, format_spec, /)", []⟩,
   ⟨"__sizeof__", .operation, some "($self, /)", ["Returns size in memory, in bytes."]⟩,
   ⟨"real", .computed, none, ["the real part of a complex number"]⟩,
   ⟨"imag", .computed, none, ["the imaginary part of a complex number"]⟩,
   ⟨"numerator", .computed, none, ["the numerator of a rational number in lowest terms"]⟩,
   ⟨"denominator", .computed, none, ["the denominator of a rational number in lowest terms"]⟩,
   ⟨"__doc__", .documentation, none, []⟩]

/-- The members of what stands for no value. -/
def nothingMembers : List Member :=
  [
   ⟨"__new__", .maker, some "($type, *args, **kwargs)",
    ["Create and return a new object.  See help(type) for accurate signature."]⟩,
   ⟨"__repr__", .slot, some "($self, /)", ["Return repr(self)."]⟩,
   ⟨"__bool__", .slot, some "($self, /)", ["True if self else False"]⟩,
   ⟨"__doc__", .documentation, none, []⟩]

/-- The members of operations that are bound to a value. -/
def callableMembers : List Member :=
  [
   ⟨"__repr__", .slot, some "($self, /)", ["Return repr(self)."]⟩,
   ⟨"__hash__", .slot, some "($self, /)", ["Return hash(self)."]⟩,
   ⟨"__call__", .slot, some "($self, /, *args, **kwargs)", ["Call self as a function."]⟩,
   ⟨"__getattribute__", .slot, some "($self, name, /)", ["Return getattr(self, name)."]⟩,
   ⟨"__lt__", .slot, some "($self, value, /)", ["Return self<value."]⟩,
   ⟨"__le__", .slot, some "($self, value, /)", ["Return self<=value."]⟩,
   ⟨"__eq__", .slot, some "($self, value, /)", ["Return self==value."]⟩,
   ⟨"__ne__", .slot, some "($self, value, /)", ["Return self!=value."]⟩,
   ⟨"__gt__", .slot, some "($self, value, /)", ["Return self>value."]⟩,
   ⟨"__ge__", .slot, some "($self, value, /)", ["Return self>=value."]⟩,
   ⟨"__reduce__", .operation, none, []⟩,
   ⟨"__module__", .stored, none, []⟩,
   ⟨"__doc__", .computed, none, []⟩,
   ⟨"__name__", .computed, none, []⟩,
   ⟨"__qualname__", .computed, none, []⟩,
   ⟨"__self__", .computed, none, []⟩,
   ⟨"__text_signature__", .computed, none, []⟩]

/-- The members of operations that are not bound. -/
def operationMembers : List Member :=
  [
   ⟨"__repr__", .slot, some "($self, /)", ["Return repr(self)."]⟩,
   ⟨"__call__", .slot, some "($self, /, *args, **kwargs)", ["Call self as a function."]⟩,
   ⟨"__getattribute__", .slot, some "($self, name, /)", ["Return getattr(self, name)."]⟩,
   ⟨"__get__", .slot, some "($self, instance, owner=None, /)",
    ["Return an attribute of instance, which is of type owner."]⟩,
   ⟨"__reduce__", .operation, none, []⟩,
   ⟨"__objclass__", .stored, none, []⟩,
   ⟨"__name__", .stored, none, []⟩,
   ⟨"__doc__", .computed, none, []⟩,
   ⟨"__qualname__", .computed, none, []⟩,
   ⟨"__text_signature__", .computed, none, []⟩]

/-- The members of slots that are not bound. -/
def slotMembers : List Member :=
  [
   ⟨"__repr__", .slot, some "($self, /)", ["Return repr(self)."]⟩,
   ⟨"__call__", .slot, some "($self, /, *args, **kwargs)", ["Call self as a function."]⟩,
   ⟨"__getattribute__", .slot, some "($self, name, /)", ["Return getattr(self, name)."]⟩,
   ⟨"__get__", .slot, some "($self, instance, owner=None, /)",
    ["Return an attribute of instance, which is of type owner."]⟩,
   ⟨"__reduce__", .operation, none, []⟩,
   ⟨"__objclass__", .stored, none, []⟩,
   ⟨"__name__", .stored, none, []⟩,
   ⟨"__doc__", .computed, none, []⟩,
   ⟨"__qualname__", .computed, none, []⟩,
   ⟨"__text_signature__", .computed, none, []⟩]

/-- The members of slots that are bound to a value. -/
def boundSlotMembers : List Member :=
  [
   ⟨"__repr__", .slot, some "($self, /)", ["Return repr(self)."]⟩,
   ⟨"__hash__", .slot, some "($self, /)", ["Return hash(self)."]⟩,
   ⟨"__call__", .slot, some "($self, /, *args, **kwargs)", ["Call self as a function."]⟩,
   ⟨"__getattribute__", .slot, some "($self, name, /)", ["Return getattr(self, name)."]⟩,
   ⟨"__lt__", .slot, some "($self, value, /)", ["Return self<value."]⟩,
   ⟨"__le__", .slot, some "($self, value, /)", ["Return self<=value."]⟩,
   ⟨"__eq__", .slot, some "($self, value, /)", ["Return self==value."]⟩,
   ⟨"__ne__", .slot, some "($self, value, /)", ["Return self!=value."]⟩,
   ⟨"__gt__", .slot, some "($self, value, /)", ["Return self>value."]⟩,
   ⟨"__ge__", .slot, some "($self, value, /)", ["Return self>=value."]⟩,
   ⟨"__reduce__", .operation, none, []⟩,
   ⟨"__self__", .stored, none, []⟩,
   ⟨"__objclass__", .computed, none, []⟩,
   ⟨"__name__", .computed, none, []⟩,
   ⟨"__qualname__", .computed, none, []⟩,
   ⟨"__doc__", .computed, none, []⟩,
   ⟨"__text_signature__", .computed, none, []⟩]

/-- The members of computed attributes. -/
def computedMembers : List Member :=
  [
   ⟨"__repr__", .slot, some "($self, /)", ["Return repr(self)."]⟩,
   ⟨"__getattribute__", .slot, some "($self, name, /)", ["Return getattr(self, name)."]⟩,
   ⟨"__get__", .slot, some "($self, instance, owner=None, /)",
    ["Return an attribute of instance, which is of type owner."]⟩,
   ⟨"__set__", .slot, some "($self, instance, value, /)",
    ["Set an attribute of instance to value."]⟩,
   ⟨"__delete__", .slot, some "($self, instance, /)", ["Delete an attribute of instance."]⟩,
   ⟨"__objclass__", .stored, none, []⟩,
   ⟨"__name__", .stored, none, []⟩,
   ⟨"__doc__", .computed, none, []⟩,
   ⟨"__qualname__", .computed, none, []⟩]

/-- The members of stored attributes. -/
def storedMembers : List Member :=
  [
   ⟨"__repr__", .slot, some "($self, /)", ["Return repr(self)."]⟩,
   ⟨"__getattribute__", .slot, some "($self, name, /)", ["Return getattr(self, name)."]⟩,
   ⟨"__get__", .slot, some "($self, instance, owner=None, /)",
    ["Return an attribute of instance, which is of type owner."]⟩,
   ⟨"__set__", .slot, some "($self, instance, value, /)",
    ["Set an attribute of instance to value."]⟩,
   ⟨"__delete__", .slot, some "($self, instance, /)", ["Delete an attribute of instance."]⟩,
   ⟨"__reduce__", .operation, none, []⟩,
   ⟨"__objclass__", .stored, none, []⟩,
   ⟨"__name__", .stored, none, []⟩,
   ⟨"__doc__", .computed, none, []⟩,
   ⟨"__qualname__", .computed, none, []⟩]

/-- The members of operations on a kind. -/
def sharedMembers : List Member :=
  [
   ⟨"__repr__", .slot, some "($self, /)", ["Return repr(self)."]⟩,
   ⟨"__call__", .slot, some "($self, /, *args, **kwargs)", ["Call self as a function."]⟩,
   ⟨"__getattribute__", .slot, some "($self, name, /)", ["Return getattr(self, name)."]⟩,
   ⟨"__get__", .slot, some "($self, instance, owner=None, /)",
    ["Return an attribute of instance, which is of type owner."]⟩,
   ⟨"__objclass__", .stored, none, []⟩,
   ⟨"__name__", .stored, none, []⟩,
   ⟨"__doc__", .computed, none, []⟩,
   ⟨"__qualname__", .computed, none, []⟩,
   ⟨"__text_signature__", .computed, none, []⟩]

/-- The members of tables of members. -/
def tableMembers : List Member :=
  [
   ⟨"__new__", .maker, some "($type, *args, **kwargs)",
    ["Create and return a new object.  See help(type) for accurate signature."]⟩,
   ⟨"__repr__", .slot, some "($self, /)", ["Return repr(self)."]⟩,
   ⟨"__str__", .slot, some "($self, /)", ["Return str(self)."]⟩,
   ⟨"__getattribute__", .slot, some "($self, name, /)", ["Return getattr(self, name)."]⟩,
   ⟨"__lt__", .slot, some "($self, value, /)", ["Return self<value."]⟩,
   ⟨"__le__", .slot, some "($self, value, /)", ["Return self<=value."]⟩,
   ⟨"__eq__", .slot, some "($self, value, /)", ["Return self==value."]⟩,
   ⟨"__ne__", .slot, some "($self, value, /)", ["Return self!=value."]⟩,
   ⟨"__gt__", .slot, some "($self, value, /)", ["Return self>value."]⟩,
   ⟨"__ge__", .slot, some "($self, value, /)", ["Return self>=value."]⟩,
   ⟨"__iter__", .slot, some "($self, /)", ["Implement iter(self)."]⟩,
   ⟨"__or__", .slot, some "($self, value, /)", ["Return self|value."]⟩,
   ⟨"__ror__", .slot, some "($self, value, /)", ["Return value|self."]⟩,
   ⟨"__ior__", .slot, some "($self, value, /)", ["Return self|=value."]⟩,
   ⟨"__len__", .slot, some "($self, /)", ["Return len(self)."]⟩,
   ⟨"__getitem__", .slot, some "($self, key, /)", ["Return self[key]."]⟩,
   ⟨"__contains__", .slot, some "($self, key, /)", ["Return key in self."]⟩,
   ⟨"get", .operation, none, ["D.get(k[,d]) -> D[k] if k in D, else d.  d defaults to None."]⟩,
   ⟨"keys", .operation, none, ["D.keys() -> a set-like object providing a view on D's keys"]⟩,
   ⟨"values", .operation, none, ["D.values() -> an object providing a view on D's values"]⟩,
   ⟨"items", .operation, none, ["D.items() -> a set-like object providing a view on D's items"]⟩,
   ⟨"copy", .operation, none, ["D.copy() -> a shallow copy of D"]⟩,
   ⟨"__class_getitem__", .shared, none, ["See PEP 585"]⟩,
   ⟨"__reversed__", .operation, none, ["D.__reversed__() -> reverse iterator"]⟩,
   ⟨"__doc__", .documentation, none, []⟩,
   ⟨"__hash__", .absent, none, []⟩]

/-- The members of kinds with an argument. -/
def appliedMembers : List Member :=
  [
   ⟨"__new__", .maker, some "($type, *args, **kwargs)",
    ["Create and return a new object.  See help(type) for accurate signature."]⟩,
   ⟨"__repr__", .slot, some "($self, /)", ["Return repr(self)."]⟩,
   ⟨"__hash__", .slot, some "($self, /)", ["Return hash(self)."]⟩,
   ⟨"__call__", .slot, some "($self, /, *args, **kwargs)", ["Call self as a function."]⟩,
   ⟨"__getattribute__", .slot, some "($self, name, /)", ["Return getattr(self, name)."]⟩,
   ⟨"__lt__", .slot, some "($self, value, /)", ["Return self<value."]⟩,
   ⟨"__le__", .slot, some "($self, value, /)", ["Return self<=value."]⟩,
   ⟨"__eq__", .slot, some "($self, value, /)", ["Return self==value."]⟩,
   ⟨"__ne__", .slot, some "($self, value, /)", ["Return self!=value."]⟩,
   ⟨"__gt__", .slot, some "($self, value, /)", ["Return self>value."]⟩,
   ⟨"__ge__", .slot, some "($self, value, /)", ["Return self>=value."]⟩,
   ⟨"__iter__", .slot, some "($self, /)", ["Implement iter(self)."]⟩,
   ⟨"__or__", .slot, some "($self, value, /)", ["Return self|value."]⟩,
   ⟨"__ror__", .slot, some "($self, value, /)", ["Return value|self."]⟩,
   ⟨"__getitem__", .slot, some "($self, key, /)", ["Return self[key]."]⟩,
   ⟨"__mro_entries__", .operation, none, []⟩,
   ⟨"__instancecheck__", .operation, none, []⟩,
   ⟨"__subclasscheck__", .operation, none, []⟩,
   ⟨"__reduce__", .operation, none, []⟩,
   ⟨"__dir__", .operation, none, []⟩,
   ⟨"__origin__", .stored, none, []⟩,
   ⟨"__args__", .stored, none, []⟩,
   ⟨"__unpacked__", .stored, none, []⟩,
   ⟨"__parameters__", .computed, none, ["Type variables in the GenericAlias."]⟩,
   ⟨"__typing_unpacked_tuple_args__", .computed, none, []⟩,
   ⟨"__doc__", .documentation, none, []⟩]

/-- The members of operations without a value, as their kind holds them. -/
def staticMembers : List Member :=
  [
   ⟨"__new__", .maker, some "($type, *args, **kwargs)",
    ["Create and return a new object.  See help(type) for accurate signature."]⟩,
   ⟨"__repr__", .slot, some "($self, /)", ["Return repr(self)."]⟩,
   ⟨"__call__", .slot, some "($self, /, *args, **kwargs)", ["Call self as a function."]⟩,
   ⟨"__get__", .slot, some "($self, instance, owner=None, /)",
    ["Return an attribute of instance, which is of type owner."]⟩,
   ⟨"__init__", .slot, some "($self, /, *args, **kwargs)",
    ["Initialize self.  See help(type(self)) for accurate signature."]⟩,
   ⟨"__func__", .stored, none, []⟩,
   ⟨"__wrapped__", .stored, none, []⟩,
   ⟨"__isabstractmethod__", .computed, none, []⟩,
   ⟨"__dict__", .computed, none, []⟩,
   ⟨"__doc__", .documentation, none, []⟩]

/-- The members of truth values; they are numbers, too. -/
def truthMembers : List Member :=
  [
   ⟨"__new__", .maker, some "($type, *args, **kwargs)",
    ["Create and return a new object.  See help(type) for accurate signature."]⟩,
   ⟨"__repr__", .slot, some "($self, /)", ["Return repr(self)."]⟩,
   ⟨"__and__", .slot, some "($self, value, /)", ["Return self&value."]⟩,
   ⟨"__rand__", .slot, some "($self, value, /)", ["Return value&self."]⟩,
   ⟨"__xor__", .slot, some "($self, value, /)", ["Return self^value."]⟩,
   ⟨"__rxor__", .slot, some "($self, value, /)", ["Return value^self."]⟩,
   ⟨"__or__", .slot, some "($self, value, /)", ["Return self|value."]⟩,
   ⟨"__ror__", .slot, some "($self, value, /)", ["Return value|self."]⟩,
   ⟨"__doc__", .documentation, none, []⟩]

/-- The members of tables that can be changed. -/
def dictionaryMembers : List Member :=
  [
   ⟨"__new__", .maker, some "($type, *args, **kwargs)",
    ["Create and return a new object.  See help(type) for accurate signature."]⟩,
   ⟨"__repr__", .slot, some "($self, /)", ["Return repr(self)."]⟩,
   ⟨"__hash__", .absent, none, []⟩,
   ⟨"__getattribute__", .slot, some "($self, name, /)", ["Return getattr(self, name)."]⟩,
   ⟨"__lt__", .slot, some "($self, value, /)", ["Return self<value."]⟩,
   ⟨"__le__", .slot, some "($self, value, /)", ["Return self<=value."]⟩,
   ⟨"__eq__", .slot, some "($self, value, /)", ["Return self==value."]⟩,
   ⟨"__ne__", .slot, some "($self, value, /)", ["Return self!=value."]⟩,
   ⟨"__gt__", .slot, some "($self, value, /)", ["Return self>value."]⟩,
   ⟨"__ge__", .slot, some "($self, value, /)", ["Return self>=value."]⟩,
   ⟨"__iter__", .slot, some "($self, /)", ["Implement iter(self)."]⟩,
   ⟨"__init__", .slot, some "($self, /, *args, **kwargs)",
    ["Initialize self.  See help(type(self)) for accurate signature."]⟩,
   ⟨"__or__", .slot, some "($self, value, /)", ["Return self|value."]⟩,
   ⟨"__ror__", .slot, some "($self, value, /)", ["Return value|self."]⟩,
   ⟨"__ior__", .slot, some "($self, value, /)", ["Return self|=value."]⟩,
   ⟨"__len__", .slot, some "($self, /)", ["Return len(self)."]⟩,
   ⟨"__getitem__", .operation, none, ["x.__getitem__(y) <==> x[y]"]⟩,
   ⟨"__setitem__", .slot, some "($self, key, value, /)", ["Set self[key] to value."]⟩,
   ⟨"__delitem__", .slot, some "($self, key, /)", ["Delete self[key]."]⟩,
   ⟨"__contains__", .operation, some "($self, key, /)",
    ["True if the dictionary has the specified key, else False."]⟩,
   ⟨"__sizeof__", .operation, none, ["D.__sizeof__() -> size of D in memory, in bytes"]⟩,
   ⟨"get", .operation, some "($self, key, default=None, /)",
    ["Return the value for key if key is in the dictionary, else default."]⟩,
   ⟨"setdefault", .operation, some "($self, key, default=None, /)",
    ["Insert key with a value of default if key is not in the dictionary.", "",
    "Return the value for key if key is in the dictionary, else default."]⟩,
   ⟨"pop", .operation, some "($self, key, default=<unrepresentable>, /)",
    ["D.pop(k[,d]) -> v, remove specified key and return the corresponding value.", "",
    "If the key is not found, return the default if given; otherwise,", "raise a KeyError."]⟩,
   ⟨"popitem", .operation, some "($self, /)",
    ["Remove and return a (key, value) pair as a 2-tuple.", "",
    "Pairs are returned in LIFO (last-in, first-out) order.",
    "Raises KeyError if the dict is empty."]⟩,
   ⟨"keys", .operation, none, ["D.keys() -> a set-like object providing a view on D's keys"]⟩,
   ⟨"items", .operation, none, ["D.items() -> a set-like object providing a view on D's items"]⟩,
   ⟨"values", .operation, none, ["D.values() -> an object providing a view on D's values"]⟩,
   ⟨"update", .operation, none,
    ["D.update([E, ]**F) -> None.  Update D from dict/iterable E and F.",
    "If E is present and has a .keys() method, then does:  for k in E: D[k] = E[k]",
    "If E is present and lacks a .keys() method, then does:  for k, v in E: D[k] = v",
    "In either case, this is followed by: for k in F:  D[k] = F[k]"]⟩,
   ⟨"fromkeys", .shared, some "($type, iterable, value=None, /)",
    ["Create a new dictionary with keys from iterable and values set to value."]⟩,
   ⟨"clear", .operation, none, ["D.clear() -> None.  Remove all items from D."]⟩,
   ⟨"copy", .operation, none, ["D.copy() -> a shallow copy of D"]⟩,
   ⟨"__reversed__", .operation, some "($self, /)",
    ["Return a reverse iterator over the dict keys."]⟩,
   ⟨"__class_getitem__", .shared, none, ["See PEP 585"]⟩,
   ⟨"__doc__", .documentation, none, []⟩]

end MemberTable

namespace Kind

/-- The members that a kind declares itself. -/
def members : Kind → List Member
  | .root => MemberTable.rootMembers
  | .kind => MemberTable.kindMembers
  | .text => MemberTable.textMembers
  | .sequence => MemberTable.sequenceMembers
  | .number => MemberTable.numberMembers
  | .nothing => MemberTable.nothingMembers
  | .callable => MemberTable.callableMembers
  | .operation => MemberTable.operationMembers
  | .slot => MemberTable.slotMembers
  | .boundSlot => MemberTable.boundSlotMembers
  | .computed => MemberTable.computedMembers
  | .stored => MemberTable.storedMembers
  | .shared => MemberTable.sharedMembers
  | .table => MemberTable.tableMembers
  | .applied => MemberTable.appliedMembers
  | .static => MemberTable.staticMembers
  | .truth => MemberTable.truthMembers
  | .dictionary => MemberTable.dictionaryMembers

/-- What is known of a kind as a whole. -/
def facts : Kind → Facts
  | .root =>
    ⟨"object", some "()",
      ["The base class of the class hierarchy.", "",
       "When called, it accepts no arguments and returns a new featureless",
       "instance that has no instance attributes and cannot be given any.", ""],
      16, 0, 529664, 0, 0⟩
  | .kind =>
    ⟨"type", none,
      ["type(object) -> the object's type", "type(name, bases, dict, **kwds) -> a new type"],
      904, 40, 2148031744, 264, 368⟩
  | .text =>
    ⟨"str", none,
      ["str(object='') -> str", "str(bytes_or_buffer[, encoding[, errors]]) -> str", "",
       "Create a new string object from the given object. If encoding or",
       "errors is specified, then the object must expose a data buffer",
       "that will be decoded using the given encoding and error handler.",
       "Otherwise, returns the result of object.__str__() (if defined)", "or repr(object).",
       "encoding defaults to sys.getdefaultencoding().", "errors defaults to 'strict'."],
      80, 0, 273159424, 0, 0⟩
  | .sequence =>
    ⟨"tuple", some "(iterable=(), /)",
      ["Built-in immutable sequence.", "",
       "If no argument is given, the constructor returns an empty tuple.",
       "If iterable is specified the tuple is initialized from iterable's items.", "",
       "If the argument is a tuple, the return value is the same object."],
      24, 8, 71849248, 0, 0⟩
  | .number =>
    ⟨"int", none,
      ["int([x]) -> integer", "int(x, base=10) -> integer", "",
       "Convert a number or string to an integer, or return 0 if no arguments",
       "are given.  If x is a number, return x.__int__().  For floating point",
       "numbers, this truncates towards zero.", "",
       "If x is not a number or if base is given, then x must be a string,",
       "bytes, or bytearray instance representing an integer literal in the",
       "given base.  The literal can be preceded by '+' or '-' and be surrounded",
       "by whitespace.  The base defaults to 10.  Valid bases are 0 and 2-36.",
       "Base 0 means to interpret the base from the string as an integer literal.",
       ">>> int('0b100', base=0)", "4"],
      24, 4, 21501184, 0, 0⟩
  | .nothing =>
    ⟨"NoneType", none, [],
      16, 0, 528640, 0, 0⟩
  | .callable =>
    ⟨"builtin_function_or_method", none, [],
      56, 0, 547200, 0, 40⟩
  | .operation =>
    ⟨"method_descriptor", none, [],
      56, 0, 678272, 0, 0⟩
  | .slot =>
    ⟨"wrapper_descriptor", none, [],
      56, 0, 676224, 0, 0⟩
  | .boundSlot =>
    ⟨"method-wrapper", none, [],
      32, 0, 20864, 0, 0⟩
  | .computed =>
    ⟨"getset_descriptor", none, [],
      48, 0, 545152, 0, 0⟩
  | .stored =>
    ⟨"member_descriptor", none, [],
      48, 0, 545152, 0, 0⟩
  | .shared =>
    ⟨"classmethod_descriptor", none, [],
      56, 0, 545152, 0, 0⟩
  | .table =>
    ⟨"mappingproxy", none, [],
      24, 0, 545088, 0, 0⟩
  | .applied =>
    ⟨"types.GenericAlias", none,
      ["Represent a PEP 585 generic type", "",
       "E.g. for t = list[int], t.__origin__ is list and t.__args__ is (int,)."],
      64, 0, 548096, 0, 40⟩
  | .static =>
    ⟨"staticmethod", none,
      ["staticmethod(function) -> method", "", "Convert a function to be a static method.", "",
       "A static method does not receive an implicit first argument.",
       "To declare a static method, use this idiom:", "", "     class C:", "         @staticmethod",
       "         def f(arg1, arg2, argN):", "             ...", "",
       "It can be called either on the class (e.g. C.f()) or on an instance",
       "(e.g. C().f()). Both the class and the instance are ignored, and",
       "neither is passed implicitly as the first argument to the method.", "",
       "Static methods in Python are similar to those found in Java or C++.",
       "For a more advanced concept, see the classmethod builtin."],
      32, 0, 546048, 24, 0⟩
  | .truth =>
    ⟨"bool", none,
      ["bool(x) -> bool", "", "Returns True when the argument x is true, False otherwise.",
       "The builtins True and False are the only two instances of the class bool.",
       "The class bool is a subclass of the class int, and cannot be subclassed."],
      32, 4, 21500160, 0, 0⟩
  | .dictionary =>
    ⟨"dict", none,
      ["dict() -> new empty dictionary",
       "dict(mapping) -> new dictionary initialized from a mapping object's",
       "    (key, value) pairs", "dict(iterable) -> new dictionary initialized as if via:",
       "    d = \x7b\x7d", "    for k, v in iterable:", "        d[k] = v",
       "dict(**kwargs) -> new dictionary initialized with the name=value pairs",
       "    in the keyword argument list.  For example:  dict(one=1, two=2)"],
      48, 0, 541611328, 0, 0⟩

end Kind

end AdmissionLedger.Template
