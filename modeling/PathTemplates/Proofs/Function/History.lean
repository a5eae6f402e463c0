import Mathlib.Data.List.Induction
import Mathlib.Data.String.Basic
import PathTemplates.Proofs.Bindings
import PathTemplates.Function.Builtins

/-! # Registries over many actions

Several registries are made, filled, frozen, copied and asked, in any order. What each of them holds can
be told from what was answered so far alone: the function of a name is the one that was last registered
there under that name, or else the one that the original held when the registry was copied from it
(`held`). An action changes at most one registry (`Effect`), and each registry stays well formed
(`Registry.WellFormed`). -/

namespace PathTemplates

namespace Registry

variable {r : Registry} {name : String}

/-! ## Well-formed registries -/

/-- A registry each of whose functions is held once, under its own name, which templates can write. -/
structure WellFormed (r : Registry) : Prop where
  /-- No name is held twice. -/
  nodup : (Bindings.names r.entries).Nodup
  /-- A function is held under its own name. -/
  name_eq : ∀ entry ∈ r.entries, entry.2.name = entry.1
  /-- Every name can be written in a template. -/
  isIdentifier : ∀ name ∈ Bindings.names r.entries, isIdentifier name

/-- A registry without functions is well formed. -/
theorem wellFormed_empty : empty.WellFormed := ⟨.nil, by simp [empty], by simp [empty, Bindings.names]⟩

/-- Whether a registry is frozen has no part in its being well formed. -/
theorem WellFormed.of_entries_eq {r' : Registry} (h : r.WellFormed) (heq : r'.entries = r.entries) :
    r'.WellFormed := ⟨heq ▸ h.nodup, heq ▸ h.name_eq, heq ▸ h.isIdentifier⟩

/-- A registry that holds one more function, under its own name. -/
def put (r : Registry) (entry : FunctionEntry) : Registry :=
  { r with entries := Bindings.set r.entries entry.name entry }

/-- A registry with one more function is well formed if its name can be written. -/
theorem WellFormed.put (h : r.WellFormed) {entry : FunctionEntry}
    (hname : PathTemplates.isIdentifier entry.name) : (r.put entry).WellFormed := by
  have hnames : Bindings.names (r.put entry).entries =
      if entry.name ∈ Bindings.names r.entries then Bindings.names r.entries
      else Bindings.names r.entries ++ [entry.name] := Bindings.names_set
  refine ⟨?_, ?_, ?_⟩
  · rw [hnames]
    split
    · exact h.nodup
    · next hnew =>
      rw [List.nodup_append]
      refine ⟨h.nodup, List.pairwise_singleton _ _, ?_⟩
      intro old hold other hother heq
      rw [List.mem_singleton] at hother
      exact hnew (hother ▸ heq ▸ hold)
  · intro bound hbound
    rcases Bindings.eq_or_mem_of_mem_set hbound with rfl | hold
    · rfl
    · exact h.name_eq bound hold
  · intro name hmem
    rw [hnames] at hmem
    split at hmem
    · exact h.isIdentifier name hmem
    · rcases List.mem_append.mp hmem with hold | hnew
      · exact h.isIdentifier name hold
      · rw [List.mem_singleton.mp hnew]
        exact hname

/-- The names of a registry are those that are held. -/
theorem mem_names : name ∈ r.names ↔ name ∈ Bindings.names r.entries :=
  (List.mergeSort_perm _ _).mem_iff

/-- The names of a well-formed registry ascend. -/
theorem WellFormed.pairwise_names (h : r.WellFormed) : r.names.Pairwise (· < ·) := by
  have hsorted : r.names.Pairwise (· ≤ ·) := by
    have hle : r.names.Pairwise fun a b => decide (a ≤ b) = true :=
      List.pairwise_mergeSort (by simpa using fun a b c => le_trans) (by simpa using le_total) _
    exact hle.imp fun hab => of_decide_eq_true hab
  have hnodup : r.names.Nodup := (List.mergeSort_perm _ _).nodup_iff.mpr h.nodup
  exact (hsorted.and hnodup).imp fun hab => lt_of_le_of_ne hab.1 hab.2

/-- The functions of a well-formed registry are listed under their names. -/
theorem WellFormed.map_name_sorted (h : r.WellFormed) : r.sorted.map (·.name) = r.names := by
  have hfind : ∀ name ∈ r.names, (r.find? name).map (·.name) = some name := by
    intro name hmem
    cases hget : r.find? name with
    | none => exact absurd (mem_names.mp hmem) (Bindings.get?_eq_none_iff.mp hget)
    | some entry =>
      have hname := h.name_eq _ (Bindings.mem_of_get?_eq_some hget)
      rw [Option.map_some, hname]
  have hmap : r.sorted.map (·.name) = r.names.filterMap fun name => (r.find? name).map (·.name) := by
    rw [sorted, List.map_filterMap]
  rw [hmap, List.filterMap_congr hfind, List.filterMap_some]

end Registry

/-! ## Actions -/

/-- Where and how a function is to be registered. As a decorator it waits for the function. -/
structure Registrar where
  /-- The place of the registry among all. -/
  place : Nat
  /-- The name of the function. -/
  name : String
  /-- How many arguments the function takes. -/
  arity : Arity
  /-- What the function is for. -/
  description : String

/-- The function that is held once a candidate is registered. -/
def Registrar.entry? (g : Registrar) : Candidate → Option FunctionEntry
  | .function body => some ⟨g.name, g.arity, body, g.description⟩
  | .foreign _ => none

/-- Registries in the order in which they were made, with the decorators that were handed out. -/
structure Registries where
  /-- The registries. -/
  made : List Registry
  /-- The decorators. -/
  decorators : List Registrar

namespace Registries

/-- What is done with registries. -/
inductive Action
  /-- Make a registry without functions. -/
  | create
  /-- Register a candidate at once. -/
  | register (g : Registrar) (candidate : Candidate)
  /-- Ask for a decorator. -/
  | decorator (g : Registrar)
  /-- Give a candidate to a decorator that was handed out. -/
  | decorate (index : Nat) (candidate : Candidate)
  /-- Look up a function. -/
  | get (place : Nat) (name : String)
  /-- Call a function. -/
  | invoke (place : Nat) (name : String) (args : List Value)
  /-- Freeze a registry. -/
  | freeze (place : Nat)
  /-- Copy a registry. -/
  | copy (place : Nat)

/-- What comes of an action. -/
inductive Reply
  /-- A registry was made at a place, as a copy of the one at another place or without functions. -/
  | created (place : Nat) (original : Option Nat)
  /-- A candidate was registered, and this was reported. -/
  | registered (g : Registrar) (candidate : Candidate) (events : List Log.Event)
  /-- A candidate was refused. -/
  | refused (e : RegistrationError)
  /-- A decorator was handed out. -/
  | decorator (index : Nat)
  /-- What a registry has under a name. -/
  | entry (result : Except (Failure EvalError) FunctionEntry)
  /-- What a function gave. -/
  | value (result : Except (Failure EvalError) Value)
  /-- A registry was frozen. -/
  | frozen (place : Nat)
  /-- There is no registry or decorator at this place. -/
  | absent

/-- Whether a reply tells that some registry is new or changed. -/
def Reply.isChange : Reply → Bool
  | created _ _ | registered _ _ _ | frozen _ => true
  | refused _ | decorator _ | entry _ | value _ | absent => false

/-- Registers a candidate, if it is accepted. -/
def offer (w : Registries) (g : Registrar) (candidate : Candidate) : Reply × Registries :=
  match w.made[g.place]? with
  | none => (.absent, w)
  | some r => match r.register g.name g.arity candidate g.description with
    | .ok (r', events) =>
      (.registered g candidate events, { w with made := w.made.set g.place r' })
    | .error e => (.refused e, w)

/-- What comes of an action, and the registries afterwards. -/
def perform (w : Registries) : Action → Reply × Registries
  | .create => (.created w.made.length none, { w with made := w.made ++ [.empty] })
  | .register g candidate => w.offer g candidate
  | .decorator g =>
    match w.made[g.place]? with
    | none => (.absent, w)
    | some _ => (.decorator w.decorators.length, { w with decorators := w.decorators ++ [g] })
  | .decorate index candidate =>
    match w.decorators[index]? with
    | none => (.absent, w)
    | some g => w.offer g candidate
  | .get place name =>
    match w.made[place]? with
    | none => (.absent, w)
    | some r => (.entry (r.get name), w)
  | .invoke place name args =>
    match w.made[place]? with
    | none => (.absent, w)
    | some r => (.value (r.invoke name args), w)
  | .freeze place =>
    match w.made[place]? with
    | none => (.absent, w)
    | some r => (.frozen place, { w with made := w.made.set place r.freeze })
  | .copy place =>
    match w.made[place]? with
    | none => (.absent, w)
    | some r => (.created w.made.length (some place), { w with made := w.made ++ [r.copy] })

/-- The replies to actions, the latest first, and the registries afterwards. -/
def run (actions : List Action) : List Reply × Registries :=
  actions.foldl (fun s action => ((s.2.perform action).1 :: s.1, (s.2.perform action).2)) ([], ⟨[], []⟩)

/-- The function that the registry at a place holds for a name. -/
def find? (w : Registries) (place : Nat) (name : String) : Option FunctionEntry :=
  w.made[place]?.bind (·.find? name)

/-! ## What the replies tell -/

/-- The function that a registry should hold for a name after replies, the latest first: the one that
was last registered there, or the one that the original held when the registry was copied. -/
def held : List Reply → Nat → String → Option FunctionEntry
  | [], _, _ => none
  | .registered g candidate _ :: earlier, place, name =>
    if g.place = place ∧ g.name = name then g.entry? candidate else held earlier place name
  | .created new original :: earlier, place, name =>
    if new = place then original.bind fun source => held earlier source name
    else held earlier place name
  | .refused _ :: earlier, place, name | .decorator _ :: earlier, place, name
  | .entry _ :: earlier, place, name | .value _ :: earlier, place, name
  | .frozen _ :: earlier, place, name | .absent :: earlier, place, name => held earlier place name

/-- Whether a registry should be frozen after replies, the latest first: it was frozen since it was
made. -/
def wasFrozen : List Reply → Nat → Bool
  | [], _ => false
  | .frozen other :: earlier, place => other == place || wasFrozen earlier place
  | .created new _ :: earlier, place => new != place && wasFrozen earlier place
  | .registered _ _ _ :: earlier, place | .refused _ :: earlier, place
  | .decorator _ :: earlier, place | .entry _ :: earlier, place | .value _ :: earlier, place
  | .absent :: earlier, place => wasFrozen earlier place

/-- A reply about no change does not count. -/
theorem held_cons_of_isChange_eq_false {reply : Reply} (h : reply.isChange = false)
    (past : List Reply) (place : Nat) (name : String) :
    held (reply :: past) place name = held past place name := by
  cases reply <;> first | rfl | cases h

/-- A reply about no change does not freeze anything. -/
theorem wasFrozen_cons_of_isChange_eq_false {reply : Reply} (h : reply.isChange = false)
    (past : List Reply) (place : Nat) : wasFrozen (reply :: past) place = wasFrozen past place := by
  cases reply <;> first | rfl | cases h

/-! ## One action -/

/-- What one action does to registries: nothing, or it makes one registry, or it changes one. -/
inductive Effect (made : List Registry) : Reply → List Registry → Prop
  /-- No registry changes. -/
  | keeps {reply : Reply} (hreply : reply.isChange = false) : Effect made reply made
  /-- A registry without functions is made. -/
  | creates : Effect made (.created made.length none) (made ++ [Registry.empty])
  /-- A copy is made, which is not frozen. -/
  | copies {place : Nat} {r : Registry} (hr : made[place]? = some r) :
      Effect made (.created made.length (some place)) (made ++ [⟨r.entries, false⟩])
  /-- A function is registered. -/
  | registers {g : Registrar} {r : Registry} {body : FunctionBody} {entry : FunctionEntry}
      {events : List Log.Event} (hr : made[g.place]? = some r) (hfrozen : r.frozen = false)
      (hname : isIdentifier g.name) (hentry : g.entry? (.function body) = some entry) :
      Effect made (.registered g (.function body) events) (made.set g.place (r.put entry))
  /-- A registry is frozen. -/
  | freezes {place : Nat} {r : Registry} (hr : made[place]? = some r) :
      Effect made (.frozen place) (made.set place ⟨r.entries, true⟩)

/-- A candidate is registered exactly if it is a function with a proper name and the registry takes
functions. -/
theorem offer_eq {w : Registries} {g : Registrar} {r : Registry} (hr : w.made[g.place]? = some r)
    (candidate : Candidate) :
    w.offer g candidate =
      if r.frozen then (.refused (.frozen g.name), w)
      else if isIdentifier g.name then
        match candidate with
        | .foreign kind => (.refused (.notCallable g.name kind), w)
        | .function body =>
          (.registered g candidate (if r.has g.name then [.functionReplaced g.name] else []),
            { w with made :=
                w.made.set g.place (r.put ⟨g.name, g.arity, body, g.description⟩) })
      else (.refused (.invalidName g.name), w) := by
  rw [offer, hr]
  by_cases hfrozen : r.frozen
  · simp [Registry.register, hfrozen]
  · by_cases hname : isIdentifier g.name
    · cases candidate <;> simp [Registry.register, Registry.put, hfrozen, hname]
    · simp [Registry.register, hfrozen, hname]

/-- Registering does one thing to registries or nothing. -/
theorem effect_offer (w : Registries) (g : Registrar) (candidate : Candidate) :
    Effect w.made (w.offer g candidate).1 (w.offer g candidate).2.made := by
  cases hr : w.made[g.place]? with
  | none =>
    rw [offer, hr]
    exact .keeps rfl
  | some r =>
    rw [offer_eq hr]
    by_cases hfrozen : r.frozen
    · rw [if_pos hfrozen]
      exact .keeps rfl
    · by_cases hname : isIdentifier g.name
      · rw [if_neg hfrozen, if_pos hname]
        cases candidate with
        | foreign kind => exact .keeps rfl
        | function body => exact .registers hr (by simpa using hfrozen) hname rfl
      · rw [if_neg hfrozen, if_neg hname]
        exact .keeps rfl

/-- An action does one thing to registries or nothing. -/
theorem effect_perform (w : Registries) (action : Action) :
    Effect w.made (w.perform action).1 (w.perform action).2.made := by
  cases action with
  | create => exact .creates
  | register g candidate => exact effect_offer w g candidate
  | decorator g =>
    rw [perform]
    cases w.made[g.place]? <;> exact .keeps rfl
  | decorate index candidate =>
    rw [perform]
    cases w.decorators[index]? with
    | none => exact .keeps rfl
    | some g => exact effect_offer w g candidate
  | get place name | invoke place name args =>
    rw [perform]
    cases w.made[place]? <;> exact .keeps rfl
  | freeze place =>
    rw [perform]
    cases hr : w.made[place]? with
    | none => exact .keeps rfl
    | some r => exact .freezes hr
  | copy place =>
    rw [perform]
    cases hr : w.made[place]? with
    | none => exact .keeps rfl
    | some r => exact .copies hr

/-- Whatever an action does, the registries stay well formed. -/
theorem Effect.wellFormed {made made' : List Registry} {reply : Reply} (h : Effect made reply made')
    (hmade : ∀ r ∈ made, r.WellFormed) : ∀ r ∈ made', r.WellFormed := by
  cases h with
  | keeps => exact hmade
  | creates =>
    intro r hmem
    rcases List.mem_append.mp hmem with hold | hnew
    · exact hmade r hold
    · rw [List.mem_singleton.mp hnew]
      exact Registry.wellFormed_empty
  | copies hr =>
    intro r hmem
    rcases List.mem_append.mp hmem with hold | hnew
    · exact hmade r hold
    · rw [List.mem_singleton.mp hnew]
      exact (hmade _ (List.mem_of_getElem? hr)).of_entries_eq rfl
  | registers hr hfrozen hname hentry =>
    intro r hmem
    rcases List.mem_or_eq_of_mem_set hmem with hold | rfl
    · exact hmade r hold
    · obtain rfl := Option.some.inj hentry
      exact (hmade _ (List.mem_of_getElem? hr)).put hname
  | freezes hr =>
    intro r hmem
    rcases List.mem_or_eq_of_mem_set hmem with hold | rfl
    · exact hmade r hold
    · exact (hmade _ (List.mem_of_getElem? hr)).of_entries_eq rfl

/-- Whatever an action does, a registry stays where it is, and its functions stay as they are unless one
is registered right there; one that is frozen stays as it is. -/
theorem Effect.getElem? {made made' : List Registry} {reply : Reply} (h : Effect made reply made')
    {place : Nat} {r : Registry} (hr : made[place]? = some r) :
    ∃ r', made'[place]? = some r' ∧ (r.frozen → r' = r) ∧
      ((∀ g candidate events, reply = .registered g candidate events → g.place ≠ place) →
        r'.entries = r.entries) := by
  have hlt : place < made.length := (List.getElem?_eq_some_iff.mp hr).1
  cases h with
  | keeps => exact ⟨r, hr, fun _ => rfl, fun _ => rfl⟩
  | creates | copies =>
    exact ⟨r, by rw [List.getElem?_append_left hlt, hr], fun _ => rfl, fun _ => rfl⟩
  | @registers g old body entry events hold hfrozen hname hentry =>
    by_cases hplace : g.place = place
    · -- only here the functions change, and a frozen registry would have refused
      subst hplace
      obtain rfl : old = r := Option.some.inj (hold.symm.trans hr)
      refine ⟨_, List.getElem?_set_self hlt, fun hyes => ?_, fun hother => ?_⟩
      · rw [hfrozen] at hyes
        cases hyes
      · exact absurd rfl (hother g _ _ rfl)
    · exact ⟨r, by rw [List.getElem?_set_ne hplace, hr], fun _ => rfl, fun _ => rfl⟩
  | @freezes other old hold =>
    by_cases hplace : other = place
    · subst hplace
      obtain rfl : old = r := Option.some.inj (hold.symm.trans hr)
      refine ⟨_, List.getElem?_set_self hlt, fun hyes => ?_, fun _ => rfl⟩
      obtain ⟨entries, frozen⟩ := old
      rw [show frozen = true from hyes]
    · exact ⟨r, by rw [List.getElem?_set_ne hplace, hr], fun _ => rfl, fun _ => rfl⟩

/-! ## Many actions -/

/-- One more action comes after the others. -/
theorem run_concat (actions : List Action) (action : Action) :
    run (actions ++ [action]) = (((run actions).2.perform action).1 :: (run actions).1,
      ((run actions).2.perform action).2) := by
  rw [run, List.foldl_append]
  rfl

/-- Registries of which replies tell everything. -/
structure Tells (past : List Reply) (made : List Registry) : Prop where
  /-- Every registry is well formed. -/
  wellFormed : ∀ r ∈ made, r.WellFormed
  /-- A registry holds what it should. -/
  find?_eq : ∀ place name, made[place]?.bind (·.find? name) = held past place name
  /-- A registry is frozen if it should be. -/
  frozen_eq : ∀ place, (made[place]?.map (·.frozen)).getD false = wasFrozen past place

/-- A registry that is added comes last. -/
theorem getElem?_made_concat (made : List Registry) (r : Registry) (place : Nat) :
    (made ++ [r])[place]? = if made.length = place then some r else made[place]? := by
  split
  · next heq => rw [← heq, List.getElem?_concat_length]
  · next hne =>
    rcases Nat.lt_or_gt_of_ne hne with hlt | hgt
    · have hlong : (made ++ [r]).length ≤ place := by
        rw [List.length_append, List.length_singleton]
        exact hlt
      rw [List.getElem?_eq_none hlong, List.getElem?_eq_none (Nat.le_of_lt hlt)]
    · exact List.getElem?_append_left hgt

/-- A registry that changes is found where it was. -/
theorem getElem?_made_set {made : List Registry} {source : Nat} {old : Registry}
    (hold : made[source]? = some old) (r : Registry) (place : Nat) :
    (made.set source r)[place]? = if source = place then some r else made[place]? := by
  have hlt : source < made.length := (List.getElem?_eq_some_iff.mp hold).1
  rw [List.getElem?_set, if_pos hlt]

/-- A registry holds one more function under its name, and the others as before. -/
theorem find?_put (r : Registry) (entry : FunctionEntry) (name : String) :
    (r.put entry).find? name = if entry.name = name then some entry else r.find? name := by
  rw [Registry.find?, Registry.put, Bindings.get?_set]
  simp only [eq_comm, Registry.find?]

/-- What registries hold is still told after one more action. -/
theorem Tells.find?_step {past : List Reply} {made made' : List Registry} {reply : Reply}
    (h : Tells past made) (heffect : Effect made reply made') (place : Nat) (name : String) :
    made'[place]?.bind (·.find? name) = held (reply :: past) place name := by
  cases heffect with
  | keeps hreply => rw [held_cons_of_isChange_eq_false hreply, h.find?_eq]
  | creates =>
    rw [held, getElem?_made_concat]
    split
    · rfl
    · exact h.find?_eq place name
  | @copies source r hr =>
    rw [held, getElem?_made_concat]
    split
    · -- the copy starts with what the original holds at this moment
      rw [Option.bind_some, Option.bind_some, ← h.find?_eq source name, hr]
      rfl
    · exact h.find?_eq place name
  | @registers g r body entry events hr hfrozen hname hentry =>
    obtain rfl := Option.some.inj hentry
    have hold := h.find?_eq place name
    rw [held, getElem?_made_set hr]
    -- the new function counts for its own name and its own registry
    by_cases hplace : g.place = place
    · rw [if_pos hplace, Option.bind_some, find?_put, ← hold, ← hplace, hr]
      by_cases hsame : g.name = name <;> simp [hsame, Registrar.entry?]
    · rw [if_neg hplace, if_neg (fun hboth => hplace hboth.1), hold]
  | @freezes source r hr =>
    rw [held, getElem?_made_set hr, ← h.find?_eq place name]
    split
    · next heq =>
      rw [← heq, hr]
      rfl
    · rfl

/-- Which registries are frozen is still told after one more action. -/
theorem Tells.frozen_step {past : List Reply} {made made' : List Registry} {reply : Reply}
    (h : Tells past made) (heffect : Effect made reply made') (place : Nat) :
    (made'[place]?.map (·.frozen)).getD false = wasFrozen (reply :: past) place := by
  have hold := h.frozen_eq place
  cases heffect with
  | keeps hreply => rw [wasFrozen_cons_of_isChange_eq_false hreply, hold]
  | creates | copies =>
    rw [wasFrozen, getElem?_made_concat, ← hold]
    by_cases hplace : made.length = place <;> simp [hplace, Registry.empty]
  | @registers g r body entry events hr hfrozen hname hentry =>
    rw [wasFrozen, getElem?_made_set hr, ← hold]
    by_cases hplace : g.place = place
    · subst hplace
      simp [hr, Registry.put]
    · rw [if_neg hplace]
  | @freezes source r hr =>
    rw [wasFrozen, getElem?_made_set hr, ← hold]
    by_cases hplace : source = place <;> simp [hplace]

/-- The replies still tell everything after one more action. -/
theorem Tells.step {past : List Reply} {made made' : List Registry} {reply : Reply}
    (h : Tells past made) (heffect : Effect made reply made') : Tells (reply :: past) made' :=
  ⟨heffect.wellFormed h.wellFormed, h.find?_step heffect, h.frozen_step heffect⟩

/-- The replies to any actions tell everything about the registries. -/
theorem tells_run (actions : List Action) : Tells (run actions).1 (run actions).2.made := by
  induction actions using List.reverseRecOn with
  | nil => exact ⟨by simp [run], by simp [run, held], by simp [run, wasFrozen]⟩
  | append_singleton actions action ih =>
    rw [run_concat]
    exact ih.step (effect_perform _ action)

/-- Whatever actions follow, a registry stays where it is, and its functions stay as they are unless one
is registered right there; one that is frozen stays as it is. -/
theorem exists_getElem?_run_append {actions : List Action} {place : Nat} {r : Registry}
    (hr : (run actions).2.made[place]? = some r) (more : List Action) :
    ∃ newer r', (run (actions ++ more)).1 = newer ++ (run actions).1 ∧
      (run (actions ++ more)).2.made[place]? = some r' ∧ (r.frozen → r' = r) ∧
      ((∀ g candidate events, .registered g candidate events ∈ newer → g.place ≠ place) →
        r'.entries = r.entries) := by
  induction more using List.reverseRecOn with
  | nil => exact ⟨[], r, by simp, by simpa using hr, fun _ => rfl, fun _ => rfl⟩
  | append_singleton more action ih =>
    obtain ⟨newer, r', hpast, hr', hfrozen, hentries⟩ := ih
    obtain ⟨r'', hr'', hfrozen', hentries'⟩ :=
      (effect_perform (run (actions ++ more)).2 action).getElem? hr'
    rw [← List.append_assoc, run_concat, hpast]
    refine ⟨_ :: newer, r'', rfl, hr'', fun hyes => ?_, fun hother => ?_⟩
    · obtain rfl := hfrozen hyes
      exact hfrozen' hyes
    · have hrest := hentries fun g candidate events hmem =>
        hother g candidate events (List.mem_cons_of_mem _ hmem)
      have hlast := hentries' fun g candidate events hreply =>
        hother g candidate events (hreply ▸ List.mem_cons_self ..)
      exact hlast.trans hrest

/-- A candidate is registered exactly if it is a function with a proper name and the registry is not
frozen. -/
theorem exists_offer_eq_registered_iff {w : Registries} {g : Registrar} {r : Registry}
    (hr : w.made[g.place]? = some r) (candidate : Candidate) :
    (∃ events, (w.offer g candidate).1 = .registered g candidate events) ↔
      r.frozen = false ∧ isIdentifier g.name ∧ (g.entry? candidate).isSome := by
  rw [offer_eq hr]
  by_cases hfrozen : r.frozen
  · simp [hfrozen]
  · by_cases hname : isIdentifier g.name
    · cases candidate <;> simp [hfrozen, hname, Registrar.entry?]
    · simp [hfrozen, hname]

/-- A candidate that is refused leaves everything as it is. -/
theorem offer_eq_of_refused {w : Registries} {g : Registrar} {candidate : Candidate}
    {e : RegistrationError} (h : (w.offer g candidate).1 = .refused e) : (w.offer g candidate).2 = w := by
  rw [offer] at h ⊢
  cases hr : w.made[g.place]? with
  | none => rfl
  | some r =>
    rw [hr] at h
    cases hregister : r.register g.name g.arity candidate g.description with
    | error e => simp only [hregister]
    | ok r' =>
      simp only [hregister] at h
      cases h

/-- Whatever is done with any number of registries, a registry holds for a name the function that was
last registered there under that name, or else the one that its original held when it was copied, and it
is frozen exactly if it was frozen since it was made. Its names and its functions ascend, and every name
can be written in a template. A candidate is registered, at once or by a decorator, exactly if it is a
function with such a name and the registry is not frozen; one that is refused changes nothing, and no
more does looking up or calling a function. A frozen registry stays as it is for ever. A copy starts with
the functions of its original and unfrozen, and from then on the functions of either change only where
one is registered in that very registry. -/
theorem registries_follow_replies (actions : List Action) :
    let past := (run actions).1
    let w := (run actions).2
    (∀ place r, w.made[place]? = some r →
      (∀ name, r.find? name = held past place name) ∧ r.frozen = wasFrozen past place) ∧
    (∀ r ∈ w.made, r.names.Pairwise (· < ·) ∧ r.sorted.map (·.name) = r.names ∧
      ∀ name, (name ∈ r.names ↔ (r.find? name).isSome) ∧ (name ∈ r.names → isIdentifier name)) ∧
    (∀ g r candidate, w.made[g.place]? = some r →
      ((∃ events, (w.perform (.register g candidate)).1 = .registered g candidate events) ↔
        r.frozen = false ∧ isIdentifier g.name ∧ (g.entry? candidate).isSome)) ∧
    (∀ index g candidate, w.decorators[index]? = some g →
      w.perform (.decorate index candidate) = w.perform (.register g candidate)) ∧
    (∀ g candidate e, (w.perform (.register g candidate)).1 = .refused e →
      (w.perform (.register g candidate)).2 = w) ∧
    (∀ place name args, (w.perform (.get place name)).2 = w ∧
      (w.perform (.invoke place name args)).2 = w) ∧
    (∀ (place : Nat) (r : Registry), w.made[place]? = some r → r.frozen → ∀ more,
      (run (actions ++ more)).2.made[place]? = some r) ∧
    (∀ place r, w.made[place]? = some r → w.perform (.copy place) =
      (.created w.made.length (some place), { w with made := w.made ++ [⟨r.entries, false⟩] })) ∧
    (∀ place r, w.made[place]? = some r → ∀ more, ∃ newer r',
      (run (actions ++ more)).1 = newer ++ past ∧
      (run (actions ++ more)).2.made[place]? = some r' ∧
      ((∀ g candidate events, .registered g candidate events ∈ newer → g.place ≠ place) →
        r'.entries = r.entries)) := by
  intro past w
  have htells : Tells past w.made := tells_run actions
  refine ⟨fun place r hr => ⟨fun name => ?_, ?_⟩, fun r hr => ?_, fun g r candidate hr => ?_,
    fun index g candidate hg => ?_, fun g candidate e he => offer_eq_of_refused he,
    fun place name args => ?_, fun place r hr hfrozen more => ?_, fun place r hr => ?_,
    fun place r hr more => ?_⟩
  · rw [← htells.find?_eq place name, hr, Option.bind_some]
  · rw [← htells.frozen_eq place, hr, Option.map_some, Option.getD_some]
  · have hwell := htells.wellFormed r hr
    refine ⟨hwell.pairwise_names, hwell.map_name_sorted, fun name => ⟨?_, fun hmem => ?_⟩⟩
    · rw [Registry.mem_names, Option.isSome_iff_ne_none, Registry.find?, Ne,
        Bindings.get?_eq_none_iff, not_not]
    · exact hwell.isIdentifier name (Registry.mem_names.mp hmem)
  · exact exists_offer_eq_registered_iff hr candidate
  · simp only [perform, hg]
  · simp only [perform]
    cases w.made[place]? <;> exact ⟨rfl, rfl⟩
  · obtain ⟨newer, r', -, hr', hsame, -⟩ := exists_getElem?_run_append hr more
    rw [hr', hsame hfrozen]
  · rw [perform, hr]
    rfl
  · obtain ⟨newer, r', hpast, hr', -, hentries⟩ := exists_getElem?_run_append hr more
    exact ⟨newer, r', hpast, hr', hentries⟩

/-- The built-in functions are in a registry where each of them was registered. -/
example : (run (.create :: Builtin.all.map fun entry =>
    .register ⟨0, entry.name, entry.arity, entry.description⟩ (.function entry.body))).2.made =
      [Builtin.registry] := by
  rfl

end Registries

end PathTemplates
