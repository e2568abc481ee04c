/-
This file holds the options of code generation that apply to every run of the compiler.
-/

import Bindery.Validation

namespace Bindery

/-- The options of a run. -/
structure Policy where
  /-- Leave out the typed stubs and the descriptor set. -/
  liteRuntime : Bool := false
  /-- Add the module of buffer helpers. -/
  zeroCopyBuffers : Bool := true
deriving DecidableEq, Repr, Inhabited

namespace Policy

/-- The options when none are given: with stubs and with buffer helpers. -/
def standard : Policy := {}

/-- The options that the arguments name. -/
def ofArguments (arguments : Arguments) : Except Invalid Policy :=
  let lite := Checked.optional arguments "lite_runtime_enabled" false Datum.readBool
  let buffers := Checked.optional arguments "use_zero_copy_byte_buffers" true Datum.readBool
  match Checked.both lite buffers with
  | .ok (lite, buffers) => .ok ⟨lite, buffers⟩
  | .error findings => .error ⟨"GenerationPolicy", findings⟩

/-- The options, or the standard ones when there are no arguments. -/
def ofArguments? : Option Arguments → Except Invalid Policy
  | none => .ok standard
  | some arguments => ofArguments arguments

/-- Options are never changed in place; the words that say so name the field. -/
def frozenMessage (field : String) : String :=
  "cannot assign to field " ++ Text.quoted field

end Policy

end Bindery
