import Recordwright.Json.Members

/-!
# Options

How a builder and its methods are named, and how many fields a record may have.  Every option has a
default, and options are written to and read from JSON.
-/

namespace Recordwright

/-- Limits on a shape. -/
structure Limits where
  /-- The greatest number of fields; nothing is no limit. -/
  maxFields : Option Nat := none
  deriving DecidableEq, Repr

/-- Naming and limits. -/
structure Options where
  /-- What follows the record's name in the builder's name. -/
  builderSuffix : String := "Builder"
  /-- The builder's name, whatever the record's name. -/
  builderName : Option String := none
  /-- What precedes the field's name in the name of the method that assigns it. -/
  setterLead : String := "with_"
  limits : Limits := {}
  deriving DecidableEq, Repr

namespace Limits

/-- The JSON value of limits. -/
def toTree (l : Limits) : Json.Tree :=
  .object [("max_fields", Json.Tree.ofOption Json.Tree.ofNat l.maxFields)]

/-- What was read of limits; the outer option tells whether the member was read. -/
structure Draft where
  maxFields : Option (Option Nat) := none

/-- How limits are read. -/
def members : Json.Members Draft Limits where
  expected := "struct ExtractOptions"
  empty := {}
  members := [
    { key := "max_fields", optional := true, seen := (·.maxFields.isSome)
      read := fun _ d => do
        return { d with maxFields := some (← Json.Reader.option (Json.Reader.size "usize")) } }]
  finish := fun d => .ok ⟨d.maxFields.getD none⟩

end Limits

namespace Options

/-- These options with the builder's name. -/
def withBuilderName (o : Options) (name : String) : Options := { o with builderName := some name }

/-- These options with what follows the record's name. -/
def withBuilderSuffix (o : Options) (suffix : String) : Options := { o with builderSuffix := suffix }

/-- These options with what precedes the field's name. -/
def withSetterLead (o : Options) (lead : String) : Options := { o with setterLead := lead }

/-- These options with a greatest number of fields. -/
def withMaxFields (o : Options) (n : Nat) : Options := { o with limits := ⟨some n⟩ }

/-- The name of the builder for a record. -/
def builderNameFor (o : Options) (record : String) : String :=
  match o.builderName with
  | some name => name
  | none => record ++ o.builderSuffix

/-- The JSON value of options. -/
def toTree (o : Options) : Json.Tree :=
  .object [("builder_suffix", .string o.builderSuffix),
    ("builder_name", Json.Tree.ofOption .string o.builderName),
    ("setter_prefix", .string o.setterLead),
    ("extract", o.limits.toTree)]

/-- The JSON text of options. -/
def toJson (o : Options) : String := o.toTree.compact

/-- What was read of options. -/
structure Draft where
  builderSuffix : Option String := none
  builderName : Option (Option String) := none
  setterLead : Option String := none
  limits : Option Limits := none

/-- How options are read. -/
def members : Json.Members Draft Options where
  expected := "struct SynthOptions"
  empty := {}
  members := [
    { key := "builder_suffix", optional := true, seen := (·.builderSuffix.isSome)
      read := fun _ d => do
        return { d with builderSuffix := some (← Json.Reader.string "a string") } },
    { key := "builder_name", optional := true, seen := (·.builderName.isSome)
      read := fun _ d => do
        return { d with
          builderName := some (← Json.Reader.option (Json.Reader.string "a string")) } },
    { key := "setter_prefix", optional := true, seen := (·.setterLead.isSome)
      read := fun _ d => do return { d with setterLead := some (← Json.Reader.string "a string") } },
    { key := "extract", optional := true, seen := (·.limits.isSome)
      read := fun depth d => do return { d with limits := some (← Limits.members.read depth) } }]
  finish := fun d =>
    let o : Options := {}
    .ok ⟨d.builderSuffix.getD o.builderSuffix, d.builderName.getD o.builderName,
      d.setterLead.getD o.setterLead, d.limits.getD o.limits⟩

/-- The options that a JSON text describes. -/
def ofJson (text : String) : Except Json.Fault Options :=
  (members.read Json.greatestDepth).run text

/-- The options that an optional JSON text describes; without a text, the defaults. -/
def ofOptionalJson : Option String → Except Json.Fault Options
  | none => .ok {}
  | some text => ofJson text

end Options

end Recordwright
