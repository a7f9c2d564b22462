/-
Where compile errors come from: the fields that an error is wrapped in lead to
a fragment that by itself makes the error they are wrapped around.

A container passes the members that it does not take itself on to its child,
so every node that an object is compiled to, however many containers are
around it, fails over members of that one object. This is what `Blames` says:
the error is about the object, or it comes from one of its members, under the
member's name or, from `__type__`, as it is. Each of these adds one step to the
way that the fields lead (`Traced`), and the induction over fragments takes the
steps one after the other.
-/
import RecordSchema.Proofs.Leaf.Blame
import RecordSchema.Proofs.Node.Located
import RecordSchema.Proofs.Node.Setters
import RecordSchema.Proofs.Node.Shape

namespace RecordSchema

open BuildError (Unwrapped)
open Except (FailsOnlyIn)

/-- The names lead from a fragment to one within it: each to the member of that name, or to the item at
the position that it writes, after any number of steps into `__type__`. -/
inductive Json.LeadsTo : Json → List String → Json → Prop where
  | here {v} : LeadsTo v [] v
  | nested {v u w name names} (found : v.part? (.field "__type__") = some u)
      (rest : LeadsTo u (name :: names) w) : LeadsTo v (name :: names) w
  | member {v u w name names} (found : v.part? (.field name) = some u) (rest : LeadsTo u names w) :
      LeadsTo v (name :: names) w
  | item {v u w i names} (found : v.part? (.index i) = some u) (rest : LeadsTo u names w) :
      LeadsTo v (Path.indexText i :: names) w

theorem BuildError.Unwrapped.rootCause {e : BuildError} (h : e.Unwrapped) : e.rootCause = e := by
  cases e with
  | inField field error => cases h
  | _ => rfl

/-- The error is about the members together, or one of them makes it. -/
inductive Member.Blames (ms : Members Member) : BuildError → Prop where
  | own {e} (unwrapped : e.Unwrapped) : Blames ms e
  | field {name m e} (mem : (name, m) ∈ ms) (failed : m.node = .error e) : Blames ms (.inField name e)
  | nested {m e} (mem : ("__type__", m) ∈ ms) (failed : m.node = .error e) : Blames ms e

theorem Member.Blames.mono {ms ms' : Members Member} {e : BuildError} (h : Blames ms e) (hsub : ms ⊆ ms') :
    Blames ms' e := by
  cases h with
  | own unwrapped => exact .own unwrapped
  | field mem failed => exact .field (hsub mem) failed
  | nested mem failed => exact .nested (hsub mem) failed

/-! ## Rules -/

theorem ArraySettings.unwrapped_ofMembers (s : ArraySettings) (es : List (String × Json)) :
    FailsOnlyIn Unwrapped (s.ofMembers es) := by
  induction es generalizing s with
  | nil => exact .ok
  | cons e es ih =>
    obtain ⟨key, v⟩ := e
    have hset : FailsOnlyIn Unwrapped (s.set key v) := by
      unfold set
      repeat' split
      · exact .ok
      · exact .ok
      · exact .ok
      · exact .ok
      · exact .error rfl
    rw [ofMembers]
    split
    · exact ih _
    · next e he => exact .error (hset e he)

theorem ArraySettings.unwrapped_ofJson (v : Json) : FailsOnlyIn Unwrapped (ofJson v) := by
  unfold ofJson
  split
  · exact unwrapped_ofMembers _ _
  · exact .ok
  · exact .error rfl

theorem ArrayRule.unwrapped_countOr (directive : String) (given : Option Json) (old : Option Nat) :
    FailsOnlyIn Unwrapped (countOr directive given old) := by
  unfold countOr
  split
  · exact .ok
  · refine .map ?_
    unfold countOf
    repeat' split
    · exact .ok
    · exact .error rfl
    · exact .error rfl

theorem ArrayRule.unwrapped_setBounds (rule : ArrayRule) (minimum maximum : Option Json) :
    FailsOnlyIn Unwrapped (rule.setBounds minimum maximum) := by
  rw [setBounds, Change.changed, perform_assignBounds, Change.outcome_settle]
  split
  · next e he => exact .error (unwrapped_countOr _ _ _ e he)
  · split
    · next e he => exact .error (unwrapped_countOr _ _ _ e he)
    · split
      · exact .error rfl
      · exact .ok

theorem HashRule.unwrapped_keyOf (v : Json) : FailsOnlyIn Unwrapped (keyOf v) := by
  unfold keyOf
  split
  · exact Leaf.unwrapped_ofKindName _
  · exact Leaf.unwrapped_ofKindName _
  · exact Leaf.unwrapped_ofFragment _
  · exact .error rfl

theorem RecordRule.unwrapped_neededNames (v : Json) : FailsOnlyIn Unwrapped (neededNames v) := by
  have hname : ∀ v, FailsOnlyIn Unwrapped (neededName v) := by
    intro v
    unfold neededName
    split
    · exact .ok
    · exact .error rfl
  unfold neededNames
  split
  · exact .ok
  · exact .mapM hname _
  · exact .error rfl

theorem RecordRule.unwrapped_requiresOf (given : Option Json) : FailsOnlyIn Unwrapped (requiresOf given) := by
  unfold requiresOf
  split
  · exact .ok
  · exact .ok
  · exact .mapM (fun e : String × Json => (unwrapped_neededNames e.2).map) _
  · exact .error rfl

/-! ## Members -/

namespace Node

open Member (Blames)

/-- What a container passes on are members of its own. -/
theorem strip_remove_subset (ms : Members Member) (key : String) : Annotations.strip (ms.remove key) ⊆ ms :=
  fun _ he => (List.mem_filter.1 (List.mem_filter.1 he).1).1

theorem blames_fieldsOf (ms : Members Member) : FailsOnlyIn (Blames ms) (fieldsOf ms) := by
  induction ms with
  | nil => exact .ok
  | cons e rest ih =>
    obtain ⟨name, m⟩ := e
    rw [fieldsOf]
    split
    · exact .error (.own rfl)
    · split
      · exact .error (.own rfl)
      · split
        · next e he => exact .error (.field (List.mem_cons_self ..) he)
        · exact (ih.imp fun e he => he.mono (List.subset_cons_self ..)).map

theorem blames_recordOf (ms : Members Member) : FailsOnlyIn (Blames ms) (recordOf ms) := by
  unfold recordOf
  refine ((RecordRule.unwrapped_requiresOf _).imp fun e he => .own he).bind fun requires => ?_
  refine ((blames_fieldsOf _).imp fun e he => he.mono (strip_remove_subset ms _)).bind fun fields => ?_
  split
  · exact .error (.own rfl)
  · exact .ok

theorem blames_bodyOf (ms : Members Member) : FailsOnlyIn (Blames ms) (bodyOf ms) := by
  unfold bodyOf
  split
  · next hget =>
    split
    · exact .error (.own rfl)
    · exact fun e he => .nested (Members.mem_of_get? hget) he
  · next hget =>
    split
    · exact .error (.own rfl)
    · exact fun e he => .nested (Members.mem_of_get? hget) he
  · exact ((Leaf.unwrapped_ofMembers _).imp fun e he => .own he).map
  · exact (blames_recordOf ms).map

theorem blames_hashOrBodyOf (ms : Members Member) : FailsOnlyIn (Blames ms) (hashOrBodyOf ms) := by
  unfold hashOrBodyOf
  split
  · unfold hashOf
    refine ((HashRule.unwrapped_keyOf _).imp fun e he => .own he).bind fun key => ?_
    dsimp only
    split
    · exact .error (.own rfl)
    · exact ((blames_bodyOf _).imp fun e he => he.mono (strip_remove_subset ms _)).bind fun child => .ok
  · exact blames_bodyOf ms

theorem blames_ofMembers (ms : Members Member) : FailsOnlyIn (Blames ms) (ofMembers ms) := by
  unfold ofMembers
  split
  · unfold arrayOf
    refine ((ArraySettings.unwrapped_ofJson _).imp fun e he => .own he).bind fun settings => ?_
    dsimp only
    split
    · exact .error (.own rfl)
    · refine ((blames_hashOrBodyOf _).imp fun e he => he.mono (strip_remove_subset ms _)).bind fun child => ?_
      have hrule := ArrayRule.unwrapped_setBounds
      exact ((hrule _ _ _).imp fun e he => .own he).bind fun rule => .ok
  · exact blames_hashOrBodyOf ms

/-- A choice fails over an option, under the option's position. -/
theorem failsOnlyIn_alternativesOf (i : Nat) (xs : List (Except BuildError Node)) :
    FailsOnlyIn (fun e => ∃ j e', xs[j]? = some (.error e') ∧ e = .inField (Path.indexText (i + j)) e')
      (alternativesOf i xs) := by
  induction xs generalizing i with
  | nil => exact .ok
  | cons x xs ih =>
    cases x with
    | error e => exact .error ⟨0, e, rfl, rfl⟩
    | ok n =>
      refine .map ((ih (i + 1)).imp ?_)
      rintro _ ⟨j, e, hj, rfl⟩
      refine ⟨j + 1, e, hj, ?_⟩
      rw [Nat.add_assoc, Nat.add_comm 1 j]

/-! ## Fragments -/

theorem mem_membersOf {members : List (String × Json)} {name : String} {m : Member}
    (h : (name, m) ∈ membersOf members) : ∃ u, (name, u) ∈ members ∧ m.node = ofFragment u := by
  rw [membersOf_eq] at h
  obtain ⟨⟨_, u⟩, hu, heq⟩ := List.mem_map.1 h
  cases heq
  exact ⟨u, hu, rfl⟩

/-- The fields of the error lead from the fragment to one that by itself makes the error within them. -/
def Traced (v : Json) (e : BuildError) : Prop :=
  ∃ u, v.LeadsTo e.fields u ∧ ofFragment u = .error e.rootCause

namespace Traced

variable {v u : Json} {e : BuildError}

theorem own (he : e.Unwrapped) (h : ofFragment v = .error e) : Traced v e := by
  have hfields : e.fields = [] := he
  refine ⟨v, ?_, ?_⟩
  · rw [hfields]
    exact .here
  · rw [he.rootCause, h]

theorem member {name : String} (hfound : v.part? (.field name) = some u) (hu : Traced u e) :
    Traced v (.inField name e) := by
  obtain ⟨w, hleads, hw⟩ := hu
  exact ⟨w, .member hfound hleads, hw⟩

theorem item {i : Nat} (hfound : v.part? (.index i) = some u) (hu : Traced u e) :
    Traced v (.inField (Path.indexText i) e) := by
  obtain ⟨w, hleads, hw⟩ := hu
  exact ⟨w, .item hfound hleads, hw⟩

/-- An error that comes out of `__type__` as it is is traced further only if it is wrapped; else the
fragment makes it just as the nested one does. -/
theorem nested (hfound : v.part? (.field "__type__") = some u) (hu : Traced u e)
    (h : ofFragment v = .error e) : Traced v e := by
  obtain ⟨w, hleads, hw⟩ := hu
  cases hfields : e.fields with
  | nil => exact own hfields h
  | cons name names =>
    rw [hfields] at hleads
    refine ⟨w, ?_, hw⟩
    rw [hfields]
    exact .nested hfound hleads

end Traced

/-- **The fields of a compile error lead to the fragment at fault**: the fragment that they lead to, compiled
by itself, fails with nothing but the error that the fields are wrapped around. -/
theorem leadsTo_of_ofFragment_eq_error {v : Json} (hv : v.WellFormed) {e : BuildError}
    (h : ofFragment v = .error e) : ∃ u, v.LeadsTo e.fields u ∧ ofFragment u = .error e.rootCause := by
  show Traced v e
  induction v generalizing e with
  | null | bool _ | number _ =>
    have he : e.Unwrapped := by
      cases h
      rfl
    exact .own he h
  | string name =>
    have he : e.Unwrapped := Leaf.unwrapped_ofKindName name e (Except.map_eq_error_iff.1 h)
    exact .own he h
  | array items ih =>
    cases items with
    | nil =>
      have he : e.Unwrapped := by
        cases h
        rfl
      exact .own he h
    | cons v vs =>
      rw [ofFragment, nodesOf_eq] at h
      obtain ⟨j, e, hj, rfl⟩ := failsOnlyIn_alternativesOf 0 _ _ (Except.map_eq_error_iff.1 h)
      rw [← List.map_cons, List.getElem?_map] at hj
      obtain ⟨u, hu, hfailed⟩ := Option.map_eq_some_iff.1 hj
      have hmem : u ∈ v :: vs := List.mem_of_getElem? hu
      rw [Nat.zero_add]
      exact .item hu (ih u hmem (hv.item u hmem) hfailed)
  | object members ih =>
    have hblames := blames_ofMembers _ e (by rwa [ofFragment] at h)
    -- a member that is blamed is the one that a step to its name finds, since no key repeats
    have hfound : ∀ {name u}, (name, u) ∈ members → (Json.object members).part? (.field name) = some u :=
      fun hmem => Members.get?_of_mem hv.nodup_keys hmem
    cases hblames with
    | own he => exact .own he h
    | field mem failed =>
      obtain ⟨u, hu, hnode⟩ := mem_membersOf mem
      exact .member (hfound hu) (ih _ hu (hv.member _ hu) (hnode ▸ failed))
    | nested mem failed =>
      obtain ⟨u, hu, hnode⟩ := mem_membersOf mem
      exact .nested (hfound hu) (ih _ hu (hv.member _ hu) (hnode ▸ failed)) h

/-- At an unknown kind in an option of a field, with a list and nested fragments on the way to it. -/
theorem leadsTo_of_ofFragment_eq_error_nested :
    let v : Json := .object [("on", .string "bool"), ("flags", .object [("__array__", .string "unique"),
      ("__type__", .object [("__hash__", .bool true), ("flag", .array [.string "bool",
        .object [("__type__", .object [("__type__", .string "bol")])]])])])]
    let e : BuildError := .inField "flags" (.inField "flag" (.inField "[1]" (.unknownKind "bol")))
    v.WellFormed ∧ ofFragment v = .error e ∧ e.fields = ["flags", "flag", "[1]"] ∧
      ∃ u, v.LeadsTo e.fields u ∧ ofFragment u = .error (.unknownKind "bol") := by
  intro v e
  have hv : v.WellFormed := by decide
  have he : ofFragment v = .error e := by rfl
  exact ⟨hv, he, rfl, leadsTo_of_ofFragment_eq_error hv he⟩

end Node

end RecordSchema
