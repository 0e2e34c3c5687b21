import Recordwright.Derive.Code
import Recordwright.Proofs.Derive.Blueprint

/-!
# The code that is emitted

The code of a blueprint is a list of tokens.  Here it is said token by token what stands in it: the
table of descriptors, the fields of the builder, the methods of each field, and the body of a build
(`Blueprint.Emits`, `Blueprint.emits`).

The body of a build is more than a list.  It is the text of a tree of statements and arms
(`Code.Routine`, `Blueprint.buildCode_eq`), and the names that it binds are read off this tree
(`Code.Routine.names`, `Code.Arm.names`): those behind `let`, and those in the pattern of an arm.
-/

namespace Recordwright

open Source
open Token (word mark)

/-! ### Where tokens stand -/

/-- The tokens stand somewhere among others, in brackets or not. -/
inductive Source.Token.Within (part : List Token) : List Token → Prop
  | here : Within part part
  | left {ts : List Token} (after : List Token) : Within part ts → Within part (ts ++ after)
  | right (before : List Token) {ts : List Token} : Within part ts → Within part (before ++ ts)
  | inside (d : Delimiter) {content : List Token} :
      Within part content → Within part [.group d content]

open Token (Within)

namespace Code

/-- Names with double colons before each. -/
def path (names : List String) : List Token := names.flatMap fun n => colons ++ [word n]

/-! ### Trees of builds -/

/-- What is bound. -/
inductive Pattern where
  /-- A name. -/
  | name (n : String)
  /-- The fields of the builder, each to a name. -/
  | fields (fs : List (Ident × String))
  /-- What there is, or that there is nothing. -/
  | option (variant : String) (content : Option String)

/-- A statement. -/
inductive Statement where
  /-- `let p = value ;` -/
  | bind (p : Pattern) (value : List Token)
  /-- `ts ;` -/
  | run (ts : List Token)
  /-- `if condition { return result ; }` -/
  | leave (condition result : List Token)

/-- An arm of a choice: its pattern, its statements, and the fields of the struct that it makes. -/
structure Arm where
  pattern : Pattern
  statements : List Statement
  fields : List (Ident × List Token)

/-- The body of a build: statements and a choice by a value. -/
structure Routine where
  statements : List Statement
  value : List Token
  arms : List Arm

/-- The success of a build with what a method of its state gives. -/
def concluded (method : String) (arguments : List Token) : List Token :=
  path ["core", "result", "Result", "Ok"] ++
    [.group .parenthesis [word "__state", mark '.', word method, .group .parenthesis arguments]]

/-- The tokens of a pattern. -/
def Pattern.tokens : Pattern → List Token
  | .name n => [word n]
  | .fields fs =>
    [word "Self", .group .brace (separated [mark ','] true
      (fs.map fun f => [f.1.token, mark ':', word f.2]))]
  | .option variant none => path ["core", "option", "Option", variant]
  | .option variant (some n) =>
    path ["core", "option", "Option", variant] ++ [.group .parenthesis [word n]]

/-- The tokens of a statement. -/
def Statement.tokens : Statement → List Token
  | .bind p value => word "let" :: (p.tokens ++ mark '=' :: (value ++ [mark ';']))
  | .run ts => ts ++ [mark ';']
  | .leave condition result =>
    word "if" :: (condition ++ [.group .brace (word "return" :: (result ++ [mark ';']))])

/-- The tokens of an arm that makes a struct of this name. -/
def Arm.tokens (record : Ident) (a : Arm) : List Token :=
  a.pattern.tokens ++ (operator "=>" ++ [.group .brace (a.statements.flatMap Statement.tokens ++
    concluded "finish" [word "__record", mark ',', record.token,
      .group .brace (separated [mark ','] true
        (a.fields.map fun f => f.1.token :: mark ':' :: f.2))])])

/-- The tokens of a body that makes structs of this name. -/
def Routine.tokens (record : Ident) (r : Routine) : List Token :=
  r.statements.flatMap Statement.tokens ++
    word "match" :: (r.value ++ [.group .brace (r.arms.flatMap (Arm.tokens record))])

/-- The names that a pattern binds. -/
def Pattern.names : Pattern → List String
  | .name n => [n]
  | .fields fs => fs.map (·.2)
  | .option _ content => content.toList

/-- The names that a statement binds. -/
def Statement.names : Statement → List String
  | .bind p _ => p.names
  | .run _ | .leave .. => []

/-- The names that an arm binds. -/
def Arm.names (a : Arm) : List String := a.pattern.names ++ a.statements.flatMap Statement.names

/-- The names that a body binds before its choice. -/
def Routine.names (r : Routine) : List String := r.statements.flatMap Statement.names

/-- The name of the value with this number. -/
def slotText (slot : Nat) : String := "__recordkit_v" ++ toString slot

/-- A number as a literal. -/
def numeral (n : Nat) : Token := .literal (toString n ++ "usize")

/-- `:: core :: clone :: Clone :: clone (& __origin . field)` -/
def originCopy (field : Ident) : List Token :=
  path ["core", "clone", "Clone", "clone"] ++
    [.group .parenthesis [mark '&', word "__origin", mark '.', field.token]]

end Code

namespace Blueprint

open Code

variable (b : Blueprint)

/-! ### Pieces of the code -/

/-- `FieldDescriptor :: new ("name" , "type" , required , 0usize)` -/
def entryTokens (d : Descriptor) : List Token :=
  b.libraryItem "FieldDescriptor" ++ path ["new"] ++
    [.group .parenthesis [quotedToken d.name, mark ',', quotedToken d.type, mark ',',
      word (if d.required then "true" else "false"), mark ',', numeral d.ordinal]]

/-- `static FIELDS : [FieldDescriptor ; 1usize] = [entry , entry] ;` -/
def tableTokens : List Token :=
  [word "static", word "FIELDS", mark ':',
    .group .bracket (b.libraryItem "FieldDescriptor" ++ [mark ';', numeral b.size]), mark '=',
    .group .bracket (separated [mark ','] false (b.descriptors.map b.entryTokens)), mark ';']

/-- `state : BuildState < Record > , field : :: core :: option :: Option < type > ,` -/
def storageTokens : List Token :=
  separated [mark ','] true (([word "__recordkit_state", mark ':'] ++ b.libraryItem "BuildState" ++
    mark '<' :: (b.recordType ++ [mark '>'])) ::
      b.storage.map fun s => s.1.token :: mark ':' ::
        (path ["core", "option", "Option"] ++ mark '<' :: (s.2.tokens ++ [mark '>'])))

/-- `pub fn setter (mut self , value : impl :: core :: convert :: Into < type >) -> Self { … }`: the
value goes into the field of the builder, and the number of the field is marked. -/
def setterTokens (m : FieldMethods) : List Token :=
  [word "pub", word "fn", word m.setter,
    .group .parenthesis ([word "mut", word "self", mark ',', word "value", mark ':', word "impl"] ++
      (path ["core", "convert", "Into"] ++ mark '<' :: (m.type.tokens ++ [mark '>'])))] ++
  (arrow ++ [word "Self",
    .group .brace ([word "self", mark '.', m.target.token, mark '='] ++
      (path ["core", "option", "Option", "Some"] ++
        [.group .parenthesis [word "value", mark '.', word "into", .group .parenthesis []],
          mark ';', word "self", mark '.', word "__recordkit_state", mark '.', word "mark",
          .group .parenthesis [numeral m.ordinal], mark ';', word "self"]))])

/-- `pub fn query (& self) -> bool { self . state . is_assigned (0usize) }` -/
def queryTokens (m : FieldMethods) : List Token :=
  [word "pub", word "fn", word m.query, .group .parenthesis [mark '&', word "self"]] ++
  (arrow ++ [word "bool",
    .group .brace [word "self", mark '.', word "__recordkit_state", mark '.', word "is_assigned",
      .group .parenthesis [numeral m.ordinal]]])

/-- `# [doc = "text"]` -/
def docTokens (text : String) : List Token :=
  [mark '#', .group .bracket [word "doc", mark '=', quotedToken text]]

/-- The two methods of a field, each with a comment. -/
def methodTokens (m : FieldMethods) : List Token :=
  docTokens ("Assign `" ++ m.field ++ "`.") ++ setterTokens m ++
    (docTokens ("Whether `" ++ m.field ++ "` was assigned on this builder.") ++ queryTokens m)

/-- `let v = __state . require (__record , & __fields [0usize] , v) ? ;` -/
def takeStatement (t : Take) : Statement :=
  .bind (.name (slotText t.slot))
    [word "__state", mark '.', word "require",
      .group .parenthesis [word "__record", mark ',', mark '&', word "__fields",
        .group .bracket [numeral t.ordinal], mark ',', word (slotText t.slot)], mark '?']

/-- A value as it was taken or given, or a default. -/
def freshTokens : FreshValue → List Token
  | .taken slot => [word (slotText slot)]
  | .orDefault slot =>
    [word (slotText slot), mark '.', word "unwrap_or_default", .group .parenthesis []]
  | .default => path ["core", "default", "Default", "default"] ++ [.group .parenthesis []]

/-- A value as it was given, or a copy of the origin's. -/
def derivedTokens : DerivedValue → List Token
  | .orOrigin slot field =>
    [word (slotText slot), mark '.', word "unwrap_or_else",
      .group .parenthesis (operator "||" ++ originCopy field)]
  | .origin field => originCopy field

/-- `|| __state . differs (0usize , v . as_ref () , & __origin . field)` -/
def differenceTokens (d : Difference) : List Token :=
  operator "||" ++ [word "__state", mark '.', word "differs",
    .group .parenthesis [numeral d.ordinal, mark ',', word (slotText d.slot), mark '.',
      word "as_ref", .group .parenthesis [], mark ',', mark '&', word "__origin", mark '.',
      d.field.token]]

/-! ### The body of a build -/

/-- The arm for builders without an origin. -/
def freshArm : Arm where
  pattern := .option "None" none
  statements := .run [word "__state", mark '.', word "missing_required",
    .group .parenthesis [word "__record", mark ',', word "__fields"], mark '?'] ::
    b.takes.map takeStatement
  fields := b.freshValues.map fun v => (v.1, freshTokens v.2)

/-- The arm for builders with an origin. -/
def derivedArm : Arm where
  pattern := .option "Some" (some "__origin")
  statements := [.bind (.name "__changed") (word "false" :: b.differences.flatMap differenceTokens),
    .leave [mark '!', word "__changed"]
      (concluded "unchanged" [word "__record", mark ',', word "__origin"])]
  fields := b.derivedValues.map fun v => (v.1, derivedTokens v.2)

/-- The identifier of the builder's own field. -/
def stateIdent : Ident := ⟨false, "__recordkit_state", by decide +kernel⟩

/-- The body of a build. -/
def routine : Routine where
  statements :=
    [.bind (.name "__record") (b.viewedRecord ++ [word "NAME"]),
      .bind (.name "__fields") (b.viewedRecord ++ [word "fields", .group .parenthesis []]),
      .bind (.fields ((stateIdent, "__state") ::
        b.bindings.map fun s => (s.source, slotText s.slot))) [word "self"]]
  value := [word "__state", mark '.', word "origin", .group .parenthesis [], mark '.',
    word "cloned", .group .parenthesis []]
  arms := [b.freshArm, b.derivedArm]

/-! ### Items of the code -/

/-- `fn fields () -> & 'static [FieldDescriptor] { table & FIELDS }` -/
def fieldsTokens : List Token :=
  word "fn" :: word "fields" :: .group .parenthesis [] ::
    (arrow ++ [mark '&', .punct '\'' true, word "static",
      .group .bracket (b.libraryItem "FieldDescriptor"),
      .group .brace (b.tableTokens ++ [mark '&', word "FIELDS"])])

/-- `struct Builder { storage }`, with the generics of the record. -/
def structTokens : List Token :=
  word "struct" :: b.builder.token :: (b.definition.generics.binding ++
    (b.definition.generics.conditions ++ [.group .brace b.storageTokens]))

/-- `fn build (self ,) -> Result { body }` -/
def buildTokens : List Token :=
  word "fn" :: word "build" :: .group .parenthesis [word "self", mark ','] ::
    (arrow ++ (b.resultType ++ [.group .brace (b.routine.tokens b.definition.ident)]))

/-! ### The emitted tokens -/

theorem freshValueCode_eq : freshValueCode = freshTokens := by
  funext v
  cases v <;> rfl

theorem derivedValueCode_eq : derivedValueCode = derivedTokens := by
  funext v
  cases v <;> rfl

/-- The tokens of the struct that an arm makes. -/
theorem finishCode_eq {κ : Type} (values : List (Ident × κ)) (f : κ → List Token) :
    b.finishCode (values.map fun v => v.1.token :: code ":" ++ f v.2) =
      concluded "finish" [word "__record", mark ',', b.definition.ident.token,
        .group .brace (separated [mark ','] true
          ((values.map fun v => (v.1, f v.2)).map fun f => f.1.token :: mark ':' :: f.2))] := by
  rw [List.map_map]
  rfl

theorem freshArm_tokens : b.freshArm.tokens b.definition.ident =
    nothing ++ (code "=>" ++ curly b.freshCode) := by
  rw [freshCode, freshValueCode_eq, finishCode_eq, List.append_assoc, List.append_assoc]
  rw [Arm.tokens, freshArm, List.flatMap_cons, List.flatMap_map]
  rfl

theorem derivedArm_tokens : b.derivedArm.tokens b.definition.ident =
    code ":: core :: option :: Option :: Some" ++ (round (code "__origin") ++
      (code "=>" ++ curly b.derivedCode)) := by
  rw [derivedCode, derivedValueCode_eq, finishCode_eq, Arm.tokens, derivedArm]
  simp only [List.flatMap_cons, List.flatMap_nil, Statement.tokens, Code.Pattern.tokens,
    List.append_assoc, List.cons_append, List.nil_append, List.append_nil]
  rfl

theorem buildCode_eq : b.buildCode = b.routine.tokens b.definition.ident := by
  rw [buildCode, routine, Routine.tokens]
  simp only [List.flatMap_cons, List.flatMap_nil, freshArm_tokens, derivedArm_tokens,
    Statement.tokens, Code.Pattern.tokens, List.append_assoc, List.cons_append, List.nil_append,
    List.append_nil, List.map_cons, List.map_map]
  rfl

theorem tableTokens_eq : b.tableTokens = code "static FIELDS :" ++
    square (b.libraryItem "FieldDescriptor" ++ code ";" ++ number b.size) ++ code "=" ++
    square (spaced (b.descriptors.map b.descriptorCode)) ++ code ";" := by
  rw [tableTokens, List.append_assoc (b.libraryItem _)]
  rfl

theorem storageTokens_eq : b.storageTokens = listed ((state ++ code ":" ++
    b.libraryItem "BuildState" ++ code "<" ++ b.recordType ++ code ">") ::
      b.storage.map fun s => s.1.token :: code ":" ++ option s.2.tokens) := by
  rw [storageTokens]
  simp only [List.append_assoc]
  rfl

theorem methodCode_eq : methodCode = methodTokens := by
  funext m
  rw [methodCode]
  simp only [List.append_assoc]
  rfl

/-- What is emitted for the builder of a record. -/
structure Emits : Prop where
  /-- The function that gives the table of descriptors. -/
  table : Within b.fieldsTokens b.tokens
  /-- The struct of the builder. -/
  storage : Within b.structTokens b.tokens
  /-- The methods of all fields, one field after the other. -/
  methods : Within (b.methods.flatMap methodTokens) b.tokens
  /-- The build. -/
  build : Within b.buildTokens b.tokens

variable {b}

/-- What stands in the content of an implementation stands in the implementation. -/
theorem within_implementation {part content : List Token} (h : Within part content)
    (view type : List Token) : Within part (b.implementation view type content) :=
  .right _ (.inside .brace h)

variable (b)

/-- **The code of a blueprint emits what the blueprint lists.** -/
theorem emits : b.Emits where
  table := by
    have inside : Within b.fieldsTokens b.recordCode := by
      rw [fieldsTokens, tableTokens_eq, recordCode]
      refine within_implementation ?_ _ _
      simp only [List.append_assoc]
      -- the function comes last, and so what stands before it is left out
      repeat first | exact .here | refine .right _ ?_
    exact .left _ (.left _ (.left _ (.left _ (.left _ inside))))
  storage := by
    have inside : Within b.structTokens b.builderCode := by
      rw [structTokens, storageTokens_eq, builderCode]
      simp only [List.append_assoc]
      repeat first | exact .here | refine .right _ ?_
    exact .left _ (.left _ (.left _ (.right _ inside)))
  methods := by
    have inside : Within (b.methods.flatMap methodTokens) b.methodsCode := by
      rw [methodsCode, methodCode_eq]
      refine within_implementation ?_ _ _
      -- the methods come last when what follows them is left out
      repeat first | exact .right _ .here | refine .left _ ?_
    exact .left _ (.left _ (.right _ inside))
  build := by
    have inside : Within b.buildTokens b.builderTraitCode := by
      rw [buildTokens, ← buildCode_eq, builderTraitCode]
      refine within_implementation ?_ _ _
      simp only [List.append_assoc]
      repeat first | exact .here | refine .right _ ?_
    exact .right _ inside

end Blueprint

end Recordwright
