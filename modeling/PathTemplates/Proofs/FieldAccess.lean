import Mathlib.Data.List.Induction
import PathTemplates.Function.Builtins
import PathTemplates.Proofs.Evaluation

/-! # Fields and nested calls of `get`

A path `a.b.c` and the calls `get(get(a, 'b'), 'c')` walk through the same mappings: they give the same
values and stop at the same name. They tell of it differently, since the calls also say how many of
them are around the place. -/

namespace PathTemplates

namespace Context

variable {c : Context} {root : String}

/-! ## Paths -/

/-- Where and why a path fails: at its variable, which counts as name zero, or at one of the fields,
which count from one. -/
inductive FailsAt (c : Context) (root : String) : List String → Nat → EvalCause → Prop
  /-- The variable is not bound. -/
  | root {fields : List String} : c.get? root = none →
      FailsAt c root fields 0 (.undefinedVariable root c.names)
  /-- The names before a field lead to a mapping that does not have the field. -/
  | missing {before after : List String} {segment : String} {entries : Dict String Value} :
      c.resolve root before = .ok (.mapping entries) → entries.get? segment = none →
      FailsAt c root (before ++ segment :: after) (before.length + 1)
        (.undefinedVariable segment (sortTexts entries.keys))
  /-- The names before a field lead to a text, which the last of them stands for. -/
  | notMapping {before after : List String} {segment s : String} :
      c.resolve root before = .ok (.text s) →
      FailsAt c root (before ++ segment :: after) (before.length + 1)
        (.notIndexable (before.getLastD root) segment)

/-- Fields are followed one list after the other. -/
theorem followFields_append (on : String) (v : Value) (before after : List String) :
    followFields on v (before ++ after) = (do
      let w ← followFields on v before
      followFields (before.getLastD on) w after) := by
  induction before generalizing on v with
  | nil => rfl
  | cons segment before ih =>
    rw [List.cons_append, List.getLastD_cons]
    cases v with
    | text s => rfl
    | mapping entries =>
      rw [followFields, followFields]
      cases entries.get? segment with
      | none => rfl
      | some inner => exact ih segment inner

/-- A path resolves its first fields and follows the others from there. -/
theorem resolve_append (before after : List String) :
    c.resolve root (before ++ after) = (do
      let w ← c.resolve root before
      followFields (before.getLastD root) w after) := by
  rw [resolve, resolve]
  cases c.get? root with
  | none => rfl
  | some v => exact followFields_append root v before after

/-- A path fails for the reason that one of its names gives. -/
theorem FailsAt.resolve_eq {fields : List String} {k : Nat} {cause : EvalCause}
    (h : c.FailsAt root fields k cause) : c.resolve root fields = .error (.of cause) := by
  cases h with
  | root hroot => rw [resolve, hroot]
  | missing hbefore hmissing => rw [resolve_append, hbefore, ok_bind, followFields, hmissing]
  | notMapping hbefore => rw [resolve_append, hbefore, ok_bind, followFields]

/-- A name at which a path fails also fails a longer path. -/
theorem FailsAt.append {fields : List String} {k : Nat} {cause : EvalCause}
    (h : c.FailsAt root fields k cause) (after : List String) :
    c.FailsAt root (fields ++ after) k cause := by
  cases h with
  | root hroot => exact .root hroot
  | missing hbefore hmissing =>
    rw [List.append_assoc, List.cons_append]
    exact .missing hbefore hmissing
  | notMapping hbefore =>
    rw [List.append_assoc, List.cons_append]
    exact .notMapping hbefore

/-- A path that fails does so at one of its names. -/
theorem exists_failsAt {fields : List String} {f : Failure EvalError}
    (h : c.resolve root fields = .error f) :
    ∃ k cause, c.FailsAt root fields k cause ∧ f = .of cause := by
  induction fields using List.reverseRecOn generalizing f with
  | nil =>
    rw [resolve] at h
    cases hroot : c.get? root with
    | none =>
      rw [hroot] at h
      exact ⟨0, _, .root hroot, (Except.error.inj h).symm⟩
    | some v =>
      rw [hroot] at h
      cases h
  | append_singleton fields segment ih =>
    rw [resolve_append] at h
    cases hbefore : c.resolve root fields with
    | error f' =>
      -- the path has failed before its last field
      rw [hbefore, error_bind] at h
      obtain rfl := Except.error.inj h
      obtain ⟨k, cause, hfails, hf⟩ := ih hbefore
      exact ⟨k, cause, hfails.append [segment], hf⟩
    | ok v =>
      rw [hbefore, ok_bind] at h
      cases v with
      | text s => exact ⟨_, _, .notMapping hbefore, (Except.error.inj h).symm⟩
      | mapping entries =>
        rw [followFields] at h
        cases hsegment : entries.get? segment with
        | none =>
          simp only [hsegment] at h
          exact ⟨_, _, .missing hbefore hsegment, (Except.error.inj h).symm⟩
        | some inner =>
          simp only [hsegment, followFields] at h
          cases h

/-- A path fails exactly for the reasons that its names give. -/
theorem resolve_eq_error_iff {fields : List String} {f : Failure EvalError} :
    c.resolve root fields = .error f ↔ ∃ k cause, c.FailsAt root fields k cause ∧ f = .of cause := by
  constructor
  · exact exists_failsAt
  · rintro ⟨k, cause, hfails, rfl⟩
    exact hfails.resolve_eq

end Context

/-! ## Calls -/

namespace Builtin

/-- On a mapping, `get` looks for the key. -/
theorem exists_get_get (entries : Dict String Value) (key : String) :
    ∃ entry, registry.get "get" = .ok entry ∧
      entry.arity.accepts [Value.mapping entries, .text key].length ∧
      entry.body [.mapping entries, .text key] = fieldOf entries key := ⟨_, rfl, rfl, rfl⟩

/-- The value of a key of a mapping. -/
theorem invoke_get_of_get?_eq_some {entries : Dict String Value} {key : String} {v : Value}
    (h : entries.get? key = some v) :
    registry.invoke "get" [.mapping entries, .text key] = .ok v := by
  obtain ⟨entry, hget, haccepts, hbody⟩ := exists_get_get entries key
  rw [Registry.invoke_of_get hget, if_pos haccepts, hbody, fieldOf, h]
  rfl

/-- A key that is not there is an error of its own. -/
theorem invoke_get_of_get?_eq_none {entries : Dict String Value} {key : String}
    (h : entries.get? key = none) :
    registry.invoke "get" [.mapping entries, .text key] =
      .error (.of (.undefinedVariable key (sortTexts entries.keys))) := by
  obtain ⟨entry, hget, haccepts, hbody⟩ := exists_get_get entries key
  rw [Registry.invoke_of_get hget, if_pos haccepts, hbody, fieldOf, h]
  rfl

/-- A text has no keys. -/
theorem invoke_get_text (s key : String) :
    registry.invoke "get" [.text s, .text key] =
      .error (.of (.argumentType "get" 0 "mapping" "text")) := rfl

end Builtin

namespace Expr

open Builtin (registry invoke_get_of_get?_eq_some invoke_get_of_get?_eq_none invoke_get_text)

variable {c : Context} {root : String}

/-- The calls `get(...get(get(root, 'b'), 'c')...)` for the fields of a path. -/
def getCalls (root : String) (fields : List String) : Expr :=
  fields.foldl (fun e field => .call "get" [e, .text field]) (.path root [])

/-- The calls for one more field are one call around the others. -/
theorem getCalls_concat (fields : List String) (field : String) :
    getCalls root (fields ++ [field]) = .call "get" [getCalls root fields, .text field] := by
  rw [getCalls, getCalls, List.foldl_append, List.foldl_cons, List.foldl_nil]

/-- A call of `get` evaluates its first argument and then looks up the key. -/
theorem value_get (e : Expr) (key : String) :
    (call "get" [e, .text key]).value registry c = (do
      let v ← (e.value registry c).mapError (·.within "get")
      (registry.invoke "get" [v, .text key]).mapError (·.leaving "get")) := by
  obtain ⟨entry, hget⟩ : ∃ entry, registry.get "get" = .ok entry := ⟨_, rfl⟩
  rw [value_call, hget, values_cons, values_cons, value, values]
  cases e.value registry c <;> rfl

/-- The calls give the value of the path. -/
theorem value_getCalls_of_resolve {fields : List String} {v : Value} (h : c.resolve root fields = .ok v) :
    (getCalls root fields).value registry c = .ok v := by
  induction fields using List.reverseRecOn generalizing v with
  | nil => exact h
  | append_singleton fields field ih =>
    rw [Context.resolve_append, bind_eq_ok_iff] at h
    obtain ⟨w, hw, hfield⟩ := h
    rw [getCalls_concat, value_get, ih hw]
    cases w with
    | text s => cases hfield
    | mapping entries =>
      rw [followFields] at hfield
      rw [mapError_ok, ok_bind]
      cases hkey : entries.get? field with
      | none =>
        simp only [hkey] at hfield
        cases hfield
      | some inner =>
        simp only [hkey] at hfield
        rw [invoke_get_of_get?_eq_some hkey]
        exact hfield

/-- The error of calls is one inside all the calls around them. -/
theorem value_getCalls_append_of_error {before : List String} {e : EvalError}
    (h : (getCalls root before).value registry c = .error (.raised e)) (after : List String) :
    (getCalls root (before ++ after)).value registry c =
      .error (.raised { e with chain := List.replicate after.length "get" ++ e.chain }) := by
  induction after using List.reverseRecOn with
  | nil => rw [List.append_nil, h]; rfl
  | append_singleton after field ih =>
    rw [← List.append_assoc, getCalls_concat, value_get, ih, List.length_append, List.length_singleton,
      List.replicate_succ]
    rfl

/-- If a name of the path is not there, the calls fail for the same reason. The call that looks for the
name is one of those around the place. -/
theorem value_getCalls_of_failsAt_undefined {fields available : List String} {k : Nat} {name : String}
    (h : c.FailsAt root fields k (.undefinedVariable name available)) :
    (getCalls root fields).value registry c = .error (.raised ⟨.undefinedVariable name available,
      List.replicate (if k = 0 then fields.length else fields.length - k + 1) "get", none, none⟩) := by
  cases h with
  | root hroot =>
    have hvariable : (getCalls root []).value registry c =
        .error (.of (.undefinedVariable root c.names)) := by
      show c.resolve root [] = _
      rw [Context.resolve, hroot]
    rw [if_pos rfl, ← List.nil_append fields, value_getCalls_append_of_error hvariable]
    simp [EvalError.of]
  | @missing before after _ entries hbefore hmissing =>
    have hcall : (getCalls root (before ++ [name])).value registry c =
        .error (.raised ⟨.undefinedVariable name (sortTexts entries.keys), ["get"], none,
          none⟩) := by
      rw [getCalls_concat, value_get, value_getCalls_of_resolve hbefore, mapError_ok, ok_bind,
        invoke_get_of_get?_eq_none hmissing]
      rfl
    have hlength : (before ++ name :: after).length - (before.length + 1) + 1 = after.length + 1 := by
      rw [List.length_append, List.length_cons]
      omega
    rw [if_neg (Nat.succ_ne_zero _), hlength, List.append_cons, value_getCalls_append_of_error hcall,
      List.replicate_succ']

/-- If a name of the path stands for a text, the next call fails by the kind of its argument. It names
itself in the reason, so it is not among the calls around the place. -/
theorem value_getCalls_of_failsAt_notIndexable {fields : List String} {k : Nat} {on segment : String}
    (h : c.FailsAt root fields k (.notIndexable on segment)) :
    (getCalls root fields).value registry c = .error (.raised ⟨.argumentType "get" 0 "mapping" "text",
      List.replicate (fields.length - k) "get", none, none⟩) := by
  cases h with
  | @notMapping before after _ s hbefore =>
    have hcall : (getCalls root (before ++ [segment])).value registry c =
        .error (.of (.argumentType "get" 0 "mapping" "text")) := by
      rw [getCalls_concat, value_get, value_getCalls_of_resolve hbefore, mapError_ok, ok_bind,
        invoke_get_text]
      rfl
    have hlength : (before ++ segment :: after).length - (before.length + 1) = after.length := by
      rw [List.length_append, List.length_cons]
      omega
    rw [hlength, List.append_cons, value_getCalls_append_of_error hcall]
    simp [EvalError.of]

/-- If the path fails, so do the calls. -/
theorem exists_value_getCalls_eq_error {fields : List String} {f : Failure EvalError}
    (h : c.resolve root fields = .error f) :
    ∃ f', (getCalls root fields).value registry c = .error f' := by
  obtain ⟨k, cause, hfails, rfl⟩ := Context.exists_failsAt h
  cases hfails with
  | root hroot => exact ⟨_, value_getCalls_of_failsAt_undefined (.root hroot)⟩
  | missing hbefore hmissing => exact ⟨_, value_getCalls_of_failsAt_undefined (.missing hbefore hmissing)⟩
  | notMapping hbefore => exact ⟨_, value_getCalls_of_failsAt_notIndexable (.notMapping hbefore)⟩

/-- The calls give a value exactly if the path does, and the same one. -/
theorem value_getCalls_eq_ok_iff {fields : List String} {v : Value} :
    (getCalls root fields).value registry c = .ok v ↔ c.resolve root fields = .ok v := by
  constructor
  · intro h
    cases hpath : c.resolve root fields with
    | ok w =>
      rw [value_getCalls_of_resolve hpath] at h
      exact h
    | error f =>
      obtain ⟨f', hf'⟩ := exists_value_getCalls_eq_error hpath
      rw [hf'] at h
      cases h
  · exact value_getCalls_of_resolve

/-- A path and the nested calls of `get` for its fields give the same values and fail at the same name.
A path fails outside all calls, because a name is not bound or because the name before it stands for
a text. In the first case the calls fail for the same reason, inside all of them if the variable is not
bound and inside the call for the name and those around it otherwise; in the second case the call for
the name fails by the kind of its first argument, inside those around it. -/
theorem path_agrees_with_getCalls (c : Context) (root : String) (fields : List String) :
    (∀ v, (path root fields).evaluate registry c = .ok v ↔
      (getCalls root fields).evaluate registry c = .ok v) ∧
    (∀ f, (path root fields).evaluate registry c = .error f ↔
      ∃ k cause, c.FailsAt root fields k cause ∧ f = .of cause) ∧
    (∀ k name available, c.FailsAt root fields k (.undefinedVariable name available) →
      (getCalls root fields).evaluate registry c = .error (.raised ⟨.undefinedVariable name available,
        List.replicate (if k = 0 then fields.length else fields.length - k + 1) "get", none, none⟩)) ∧
    ∀ k on segment, c.FailsAt root fields k (.notIndexable on segment) →
      (getCalls root fields).evaluate registry c = .error (.raised ⟨.argumentType "get" 0 "mapping" "text",
        List.replicate (fields.length - k) "get", none, none⟩) := by
  simp only [evaluate_eq_value (getCalls root fields)]
  exact ⟨fun _ => value_getCalls_eq_ok_iff.symm, fun _ => Context.resolve_eq_error_iff,
    fun _ _ _ => value_getCalls_of_failsAt_undefined, fun _ _ _ => value_getCalls_of_failsAt_notIndexable⟩

/-- In `a.b.d` the field `b` is missing, so both calls are around the place; in `t.b.d` the variable `t`
is a text, so the call for `b` fails inside the one for `d`. -/
theorem path_agrees_with_getCalls_stopped :
    let c : Context := ⟨.ofList [("a", .mapping (.ofList [("c", .text "x")])), ("t", .text "y")]⟩
    (getCalls "a" ["b", "d"]).evaluate registry c =
      .error (.raised ⟨.undefinedVariable "b" (sortTexts ["c"]), ["get", "get"], none, none⟩) ∧
    (getCalls "t" ["b", "d"]).evaluate registry c =
      .error (.raised ⟨.argumentType "get" 0 "mapping" "text", ["get"], none, none⟩) := by
  intro c
  have hmissing : c.FailsAt "a" ["b", "d"] 1 (.undefinedVariable "b" (sortTexts ["c"])) :=
    @Context.FailsAt.missing c "a" [] ["d"] "b" (.ofList [("c", .text "x")]) rfl rfl
  have hnotMapping : c.FailsAt "t" ["b", "d"] 1 (.notIndexable "t" "b") :=
    @Context.FailsAt.notMapping c "t" [] ["d"] "b" "y" rfl
  exact ⟨(path_agrees_with_getCalls c "a" ["b", "d"]).2.2.1 1 _ _ hmissing,
    (path_agrees_with_getCalls c "t" ["b", "d"]).2.2.2 1 _ _ hnotMapping⟩

end Expr

end PathTemplates
