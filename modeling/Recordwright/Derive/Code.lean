import Recordwright.Derive.Blueprint

/-!
# The code of builders

The tokens of the code that a blueprint stands for: the record's name and fields, a method of the
record that begins a build, and the builder with its methods and its two builds.
-/

namespace Recordwright

open Source

namespace Code

/-! ### Pieces of code -/

/-- Splits a text at its blanks. -/
def words : List Char → List (List Char)
  | [] => [[]]
  | ' ' :: rest => [] :: words rest
  | c :: rest =>
    match words rest with
    | first :: more => (c :: first) :: more
    | [] => [[c]]

/-- The tokens of a word or a mark. -/
def piece : List Char → List Token
  | [] => []
  | c :: rest =>
    if c = '\'' then [.punct '\'' true, Token.word (String.ofList rest)]
    else if Text.current.isStart c || c == '_' then [Token.word (String.ofList (c :: rest))]
    else operator (String.ofList (c :: rest))

/-- The tokens of words and marks with blanks between them. -/
def code (s : String) : List Token := (words s.toList).flatMap piece

/-- A number. -/
def number (n : Nat) : List Token := [.literal (toString n ++ "usize")]

/-- A text. -/
def text (s : String) : List Token := [quotedToken s]

/-- A truth value. -/
def truth (b : Bool) : List Token := [Token.word (if b then "true" else "false")]

/-- Round brackets. -/
def round (ts : List Token) : List Token := [.group .parenthesis ts]

/-- Square brackets. -/
def square (ts : List Token) : List Token := [.group .bracket ts]

/-- Curly brackets. -/
def curly (ts : List Token) : List Token := [.group .brace ts]

/-- Pieces with a comma after each. -/
def listed (parts : List (List Token)) : List Token := separated [Token.mark ','] true parts

/-- Pieces with a comma between each two. -/
def spaced (parts : List (List Token)) : List Token := separated [Token.mark ','] false parts

/-- A comment that is always the same. -/
def comment (s : String) : List Token :=
  code "#" ++ square (code "doc =" ++ [.literal ("r\"" ++ s ++ "\"")])

/-- A comment that is made up. -/
def madeComment (s : String) : List Token := code "#" ++ square (code "doc =" ++ text s)

/-- The type of what may be lacking. -/
def option (t : List Token) : List Token := code ":: core :: option :: Option <" ++ t ++ code ">"

/-- What is lacking. -/
def nothing : List Token := code ":: core :: option :: Option :: None"

/-- A success. -/
def success (ts : List Token) : List Token := code ":: core :: result :: Result :: Ok" ++ round ts

/-- A copy. -/
def copyOf (ts : List Token) : List Token :=
  code ":: core :: clone :: Clone :: clone" ++ round (code "&" ++ ts)

/-- The name of the value with this number. -/
def slotName (slot : Nat) : List Token := [Token.word ("__recordkit_v" ++ toString slot)]

/-- The field in which a builder keeps its state. -/
def state : List Token := [Token.word stateField]

/-- A field of the origin. -/
def originField (field : Ident) : List Token := code "__origin ." ++ [field.token]

end Code

namespace Blueprint

open Code

variable (b : Blueprint)

/-! ### Names and types -/

/-- Something of the library. -/
def libraryItem (name : String) : List Token :=
  b.definition.library.tokens ++ code "::" ++ [Token.word name]

/-- The type of the record. -/
def recordType : List Token := b.definition.ident.token :: b.definition.generics.use

/-- The type of the builder. -/
def builderType : List Token := b.builder.token :: b.definition.generics.use

/-- The type of a shared record. -/
def sharedType : List Token := code ":: std :: sync :: Arc <" ++ b.recordType ++ code ">"

/-- The type of what a build gives. -/
def resultType : List Token :=
  code ":: core :: result :: Result <" ++ b.sharedType ++ code "," ++
    b.libraryItem "ValidationError" ++ code ">"

/-- An implementation for a type, of a trait if one is given. -/
def implementation (view : List Token) (type content : List Token) : List Token :=
  code "impl" ++ b.definition.generics.binding ++
    (if view.isEmpty then [] else view ++ code "for") ++ type ++
    b.definition.generics.conditions ++ curly content

/-- The record as its trait sees it. -/
def viewedRecord : List Token :=
  code "<" ++ b.recordType ++ code "as" ++ b.libraryItem "Record" ++ code "> ::"

/-! ### The record -/

/-- The descriptor of a field. -/
def descriptorCode (d : Descriptor) : List Token :=
  b.libraryItem "FieldDescriptor" ++ code ":: new" ++
    round (spaced [text d.name, text d.type, truth d.required, number d.ordinal])

/-- The name of the record, its builder and its fields. -/
def recordCode : List Token :=
  let descriptor := b.libraryItem "FieldDescriptor"
  b.implementation (b.libraryItem "Record") b.recordType <|
    code "const NAME : & 'static str =" ++ text b.record ++ code ";" ++
      code "type Builder =" ++ b.builderType ++ code ";" ++
      code "fn fields" ++ round [] ++ code "-> & 'static" ++ square descriptor ++
      curly (code "static FIELDS :" ++ square (descriptor ++ code ";" ++ number b.size) ++
        code "=" ++ square (spaced (b.descriptors.map b.descriptorCode)) ++ code ";" ++
        code "& FIELDS")

/-- The method of the record that begins a build. -/
def beginningCode : List Token :=
  b.implementation [] b.recordType <|
    comment " Start a fresh builder." ++ b.definition.visibility.tokens ++ code "fn builder" ++
      round [] ++ code "->" ++ b.builderType ++
      curly (b.builder.token :: code ":: new" ++ round [])

/-! ### The builder -/

/-- The declaration of the builder. -/
def builderCode : List Token :=
  let state := state ++ code ":" ++ b.libraryItem "BuildState" ++ code "<" ++ b.recordType ++
    code ">"
  madeComment ("Builder for [`" ++ b.record ++ "`].") ++
    code "#" ++ square (code "allow" ++ round (code "non_snake_case")) ++
    b.definition.visibility.tokens ++ code "struct" ++ [b.builder.token] ++
    b.definition.generics.binding ++ b.definition.generics.conditions ++
    curly (listed (state :: b.storage.map fun s => s.1.token :: code ":" ++ option s.2.tokens))

/-- A builder with this state and nothing assigned. -/
def emptyBuilder (initial : List Token) : List Token :=
  code "Self" ++ curly (listed ((state ++ code ":" ++ initial) ::
    b.storage.map fun s => s.1.token :: code ":" ++ nothing))

/-- The methods of a field. -/
def methodCode (m : FieldMethods) : List Token :=
  madeComment ("Assign `" ++ m.field ++ "`.") ++ code "pub fn" ++ [Token.word m.setter] ++
    round (code "mut self , value : impl :: core :: convert :: Into <" ++ m.type.tokens ++
      code ">") ++ code "-> Self" ++
    curly (code "self ." ++ [m.target.token] ++ code "= :: core :: option :: Option :: Some" ++
      round (code "value . into" ++ round []) ++ code "; self ." ++ state ++ code ". mark" ++
      round (number m.ordinal) ++ code "; self") ++
    madeComment ("Whether `" ++ m.field ++ "` was assigned on this builder.") ++
    code "pub fn" ++ [Token.word m.query] ++ round (code "& self") ++ code "-> bool" ++
    curly (code "self ." ++ state ++ code ". is_assigned" ++ round (number m.ordinal))

/-- The methods of the builder. -/
def methodsCode : List Token :=
  b.implementation [] b.builderType <|
    comment " A builder with no origin; `build()` checks required fields." ++
      code "pub fn new" ++ round [] ++ code "-> Self" ++
      curly (b.emptyBuilder (b.libraryItem "BuildState" ++ code ":: fresh" ++
        round (number b.size))) ++
      comment " A builder deriving from `origin`; `build()` returns `origin`" ++
      comment " itself when no assigned value differs from it." ++
      code "pub fn from_origin" ++ round (code "origin :" ++ b.sharedType) ++ code "-> Self" ++
      curly (b.emptyBuilder (b.libraryItem "BuildState" ++ code ":: derived" ++
        round (code "origin ," ++ number b.size))) ++
      b.methods.flatMap methodCode ++
      comment " Finish the builder." ++ code "pub fn build" ++ round (code "self ,") ++
      code "->" ++ b.resultType ++
      curly (code "< Self as" ++ b.libraryItem "RecordBuilder" ++ code "> :: build" ++
        round (code "self"))

/-- The builder that is given where a default is wanted. -/
def defaultCode : List Token :=
  b.implementation (code ":: core :: default :: Default") b.builderType <|
    code "fn default" ++ round [] ++ code "-> Self" ++ curly (code "Self :: new" ++ round [])

/-! ### The builds -/

/-- The check for a value that a fresh build must have. -/
def takeCode (t : Take) : List Token :=
  code "let" ++ slotName t.slot ++ code "= __state . require" ++
    round (code "__record , & __fields" ++ square (number t.ordinal) ++ code "," ++
      slotName t.slot) ++ code "? ;"

/-- How a fresh build makes a field. -/
def freshValueCode : FreshValue → List Token
  | .taken slot => slotName slot
  | .orDefault slot => slotName slot ++ code ". unwrap_or_default" ++ round []
  | .default => code ":: core :: default :: Default :: default" ++ round []

/-- How a derived build makes a field. -/
def derivedValueCode : DerivedValue → List Token
  | .orOrigin slot field =>
    slotName slot ++ code ". unwrap_or_else" ++ round (code "||" ++ copyOf (originField field))
  | .origin field => copyOf (originField field)

/-- A comparison with the origin. -/
def differenceCode (d : Difference) : List Token :=
  code "|| __state . differs" ++
    round (number d.ordinal ++ code "," ++ slotName d.slot ++ code ". as_ref" ++ round [] ++
      code ", &" ++ originField d.field)

/-- A new record with these fields as the result of a build. -/
def finishCode (fields : List (List Token)) : List Token :=
  success (code "__state . finish" ++
    round (code "__record ," ++ [b.definition.ident.token] ++ curly (listed fields)))

/-- What a fresh build does. -/
def freshCode : List Token :=
  code "__state . missing_required" ++ round (code "__record , __fields") ++ code "? ;" ++
    b.takes.flatMap takeCode ++
    b.finishCode (b.freshValues.map fun v => v.1.token :: code ":" ++ freshValueCode v.2)

/-- What a derived build does. -/
def derivedCode : List Token :=
  code "let __changed = false" ++ b.differences.flatMap differenceCode ++ code ";" ++
    code "if ! __changed" ++
    curly (code "return" ++
      success (code "__state . unchanged" ++ round (code "__record , __origin")) ++ code ";") ++
    b.finishCode (b.derivedValues.map fun v => v.1.token :: code ":" ++ derivedValueCode v.2)

/-- What a build does. -/
def buildCode : List Token :=
  code "let __record =" ++ b.viewedRecord ++ code "NAME ;" ++
    code "let __fields =" ++ b.viewedRecord ++ code "fields" ++ round [] ++ code ";" ++
    code "let Self" ++
    curly (listed ((state ++ code ": __state") ::
      b.bindings.map fun s => s.source.token :: code ":" ++ slotName s.slot)) ++
    code "= self ;" ++
    code "match __state . origin" ++ round [] ++ code ". cloned" ++ round [] ++
    curly (nothing ++ code "=>" ++ curly b.freshCode ++
      code ":: core :: option :: Option :: Some" ++ round (code "__origin") ++ code "=>" ++
      curly b.derivedCode)

/-- The builder as its trait sees it. -/
def builderTraitCode : List Token :=
  b.implementation (b.libraryItem "RecordBuilder") b.builderType <|
    code "type Record =" ++ b.recordType ++ code ";" ++
      code "fn fresh" ++ round [] ++ code "-> Self" ++ curly (code "Self :: new" ++ round []) ++
      code "fn derived" ++ round (code "origin :" ++ b.sharedType) ++ code "-> Self" ++
      curly (code "Self :: from_origin" ++ round (code "origin")) ++
      code "fn build" ++ round (code "self ,") ++ code "->" ++ b.resultType ++ curly b.buildCode

/-- The code of a record and its builder. -/
def tokens : List Token :=
  b.recordCode ++ b.beginningCode ++ b.builderCode ++ b.methodsCode ++ b.defaultCode ++
    b.builderTraitCode

end Blueprint

end Recordwright
