/-
Trees that can be made, and that each is compiled from its own fragment: the
name comes first in it and is taken out again, and what is left are the
members of a record.
-/
import RecordSchema.Proofs.Node.Export
import RecordSchema.Tree

namespace RecordSchema

namespace Tree

/-- The name is one that a tree may have, and the record is coherent at every level. -/
structure Coherent (t : Tree) : Prop where
  isField : Name.isField t.name = true
  body : t.body.Everywhere Node.Coherent

theorem coherent_compile {fallback : Option String} {v : Json} {t : Tree} (hv : v.WellFormed)
    (h : compile fallback v = .ok t) : t.Coherent := by
  unfold compile at h
  split at h
  · next m =>
    obtain ⟨name, -, h⟩ := Except.bind_eq_ok_iff.1 h
    split at h
    · cases h
    · next hname =>
      obtain ⟨⟨rule, fields⟩, hrecord, h⟩ := Except.bind_eq_ok_iff.1 h
      cases h
      have hm : Member.Sound (Node.membersOf m) :=
        Node.sound_membersOf hv fun e he => Node.coherent_ofFragment e.2 (hv.member e he)
      exact ⟨by simpa using hname, Node.coherent_recordOf (hm.filter _) hrecord⟩
  · cases h

theorem Coherent.setSpecial {t t' : Tree} (ht : t.Coherent) {name : String} {value : Json}
    (h : t.setSpecial name value = .ok t') : t'.Coherent := by
  obtain ⟨a, ha, rfl⟩ := Except.map_eq_ok_iff.1 h
  have hbody : t.body.setSpecial? name value =
      some (.ok (.record { t.rule with annotations := a } t.fields)) := by
    exact congrArg some (Change.outcome_performIn_eq_ok_iff.2 ⟨a, ha, rfl⟩)
  exact ⟨ht.isField, Node.coherent_setSpecial? ht.body hbody⟩

/-- Trees that can be made: compiled from a fragment, then given specials that they may have. -/
inductive Reachable : Tree → Prop where
  | compiled {fallback v t} (hv : v.WellFormed) (h : compile fallback v = .ok t) : Reachable t
  | setSpecial {t t' name value} (ht : Reachable t) (h : t.setSpecial name value = .ok t') : Reachable t'

theorem reachable_of_ofText {text : String} {t : Tree} (h : ofText text = .ok t) : t.Reachable := by
  unfold ofText at h
  split at h
  · next v hv => exact .compiled (Json.wellFormed_of_parse? hv) h
  · cases h

/-- **Every tree that can be made has a name it may have, and is coherent at every level.** -/
theorem Reachable.coherent {t : Tree} (h : t.Reachable) : t.Coherent := by
  induction h with
  | compiled hv h => exact coherent_compile hv h
  | setSpecial _ h ih => exact ih.setSpecial h

/-! ## Fragments -/

theorem nameOf_toFragment (fallback : Option String) (name : String) (es : List (String × Json)) :
    nameOf fallback (("__name__", .string name) :: es) = .ok name := rfl

/-- A coherent tree without infinite numbers is compiled from its own fragment. -/
theorem Coherent.ofFragment_toFragment {t : Tree} (h : t.Coherent)
    (hf : t.body.Everywhere Node.HasFiniteFloats) :
    ofFragment t.toFragment = .ok t := by
  have hrule : t.rule.Coherent (Members.keys t.fields) := (Node.everywhere_record.1 h.body).1
  have hfields : ∀ e ∈ t.fields, e.2.Restored :=
    fun e he => ((Node.everywhere_record.1 (Node.restored_everywhere t.body h.body hf)).2 e he).self
  have hname : ∀ e ∈ t.rule.members ++ Node.fieldMembers t.fields, e.1 ≠ "__name__" :=
    Node.ne_of_mem_record hrule (by decide) (by decide) (by decide)
  have hremove :
      Members.remove (("__name__", .string t.name) :: (t.rule.members ++ Node.fieldMembers t.fields))
      "__name__" = t.rule.members ++ Node.fieldMembers t.fields :=
    Node.remove_cons_self hname
  simp only [ofFragment, toFragment, compile, nameOf_toFragment, Node.remove_membersOf, hremove]
  refine Except.bind_eq_ok_iff.2 ⟨t.name, rfl, ?_⟩
  rw [h.isField, Node.recordOf_members hrule hfields]
  rfl

/-- **Whatever can be made is compiled from its own fragment again**, nodes and trees alike: to the
same node at every level, in the same order. -/
theorem ofFragment_toFragment_of_reachable :
    (∀ n : Node, n.Reachable → n.Everywhere Node.HasFiniteFloats → Node.ofFragment n.toFragment = .ok n) ∧
      ∀ t : Tree, t.Reachable → t.body.Everywhere Node.HasFiniteFloats → ofFragment t.toFragment = .ok t :=
  ⟨fun n hn hf => (Node.restored_everywhere n hn.coherent hf).self,
    fun _ ht hf => ht.coherent.ofFragment_toFragment hf⟩

/-- At a list of bools that is given a least count, and at a tree that is given a special. -/
theorem ofFragment_toFragment_of_reachable_flags :
    ∃ (n : Node) (t : Tree), n.Reachable ∧ t.Reachable ∧
      n.toFragment = .object [("__array__", .object [("type", .string "duplicates"), ("minimum", .ofInt 2)]),
        ("__type__", .string "bool")] ∧
      t.toFragment = .object [("__name__", .string "flags"), ("__note__", .bool true),
        ("flag", .object [("__type__", .string "bool")])] ∧
      Node.ofFragment n.toFragment = .ok n ∧ ofFragment t.toFragment = .ok t := by
  have hnode :
      Node.ofFragment (.object [("__array__", .string "duplicates"), ("__type__", .string "bool")]) =
      .ok (.array ⟨.plain, .duplicates, none, none⟩ (.leaf (.bare .bool))) := by rfl
  have hbounds : (Node.array ⟨.plain, .duplicates, none, none⟩ (.leaf (.bare .bool))).setBounds?
      (some (.number (.int 2))) none =
        some (.ok (.array ⟨.plain, .duplicates, some 2, none⟩ (.leaf (.bare .bool)))) := by rfl
  have htree : compile none (.object [("__name__", .string "flags"), ("flag", .string "bool")]) =
      .ok ⟨"flags", ⟨.plain, []⟩, [("flag", .leaf (.bare .bool))]⟩ := by rfl
  have hspecial :
      (Tree.mk "flags" ⟨.plain, []⟩ [("flag", .leaf (.bare .bool))]).setSpecial "note" (.bool true) =
      .ok ⟨"flags", ⟨⟨false, [("note", .bool true)]⟩, []⟩, [("flag", .leaf (.bare .bool))]⟩ := by rfl
  have hn := (Node.Reachable.compiled (by decide) hnode).setBounds
    (fun v hv => by cases hv; decide) (fun v hv => by cases hv) hbounds
  have ht := (Reachable.compiled (by decide) htree).setSpecial hspecial
  refine ⟨_, _, hn, ht, by rfl, by rfl, ofFragment_toFragment_of_reachable.1 _ hn ?_,
    ofFragment_toFragment_of_reachable.2 _ ht ?_⟩
  · simp [Node.HasFiniteFloats, Leaf.FiniteFloats, Leaf.scalars, Leaf.bare]
  · simp [Tree.body, Node.HasFiniteFloats, Leaf.FiniteFloats, Leaf.scalars, Leaf.bare]

end Tree

end RecordSchema
