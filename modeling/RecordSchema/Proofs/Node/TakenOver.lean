/-
What a choice of options makes of a value, cleaned once more.

The option is chosen by the value as it is given, and the value that comes out
is of another form: an option that refused the one may accept the other and
rewrite it (`clean_options_taken_over`). Cleaning again changes nothing exactly
where the first option to accept the cleaned value is the one that made it or
leaves it as it is (`Retains`); if the option that made the value accepts it
too, only the options before it can take it over (`retains_iff_of_accepts`).
-/
import Mathlib.Data.List.TakeWhile
import RecordSchema.Proofs.Node.Idempotent

namespace RecordSchema

namespace Node

variable {ns : List Node} {n : Node} {v w : Json} {p : Path}

/-- The options that are asked before the first one that accepts a value. -/
def refusing (ns : List Node) (v : Json) : List Node := ns.takeWhile fun m => !m.accepts v

theorem eq_refusing_append (h : firstAccepting? ns v = some n) : ∃ after, ns = refusing ns v ++ n :: after := by
  obtain ⟨haccepts, before, after, rfl, hbefore⟩ := List.find?_eq_some_iff_append.1 h
  have hrefusing : refusing (before ++ n :: after) v = before := by
    rw [refusing, List.takeWhile_append_of_pos hbefore, List.takeWhile_cons_of_neg (by simp [haccepts]),
      List.append_nil]
  exact ⟨after, by rw [hrefusing]⟩

theorem accepts_of_mem_refusing (h : n ∈ refusing ns v) : n.accepts v = false := by
  simpa using List.mem_takeWhile_imp h

/-- Cleaned again, a value is as it was exactly if the choice retains it. -/
theorem clean_options_iff_retains (hns : ns ≠ []) (hself : ∀ q, n.clean w q = .ok w) (p : Path) :
    (options ns).clean w p = .ok w ↔ Retains ns n w := by
  constructor
  · intro h
    obtain ⟨m, hfirst, hm⟩ := (clean_options_eq_ok_iff hns).1 h
    have hroot := (clean_eq_ok_iff m w w p).1 hm
    exact ⟨m, hfirst, .inr fun q => (clean_eq_ok_iff m w w q).2 hroot⟩
  · exact fun h => clean_options_of_retains hns h hself p

/-- Where the option that made a value accepts it, only one before it can be found instead. -/
theorem retains_iff_of_accepts {before : List Node} (after : List Node) (hn : n ∉ before)
    (haccepts : n.accepts w = true) :
    Retains (before ++ n :: after) n w ↔
      ∀ m, firstAccepting? before w = some m → ∀ p, m.clean w p = .ok w := by
  have hthen : firstAccepting? (n :: after) w = some n := List.find?_cons_of_pos haccepts
  rw [Retains, firstAccepting?_append, hthen]
  cases hfirst : firstAccepting? before w with
  | none => simp
  | some m =>
    have hne : m ≠ n := by
      rintro rfl
      exact hn (List.mem_of_find?_eq_some hfirst)
    simp [hne]

/-- What is accepted still is once it is cleaned. -/
theorem accepts_of_clean (hn : n.Everywhere Coherent) (hk : n.Everywhere Keeps) (hv : v.WellFormed)
    (hj : n.PrintsJson v) (haccepts : n.accepts v = true) (hw : n.clean v p = .ok w) : n.accepts w = true := by
  have hconforms : n.Conforms v := (decides_conforms n v .root).1 ((accepts_iff .root).1 haccepts)
  have hkept := n.stays hn hk v w p hv hj hconforms hw
  exact (accepts_iff .root).2 ((decides_conforms n w .root).2 hkept.conforms)

/-- **When cleaning again what a choice of options made changes nothing.** It is the first option to accept the
value that makes it. If no part of the value is taken over within that option, then cleaning again changes
nothing exactly where the choice retains what was made; if the option accepts what it made, exactly where the
first of the options before it to accept that, if there is one, leaves it as it is. An option without choices
and without floating-point keys takes no part over, and one without lists of unrepeated items and
floating-point keys accepts what it makes, as long as the JSON texts it prints can be read. -/
theorem clean_options_again (h : (options ns).Reachable) (hv : v.WellFormed)
    (hw : (options ns).clean v p = .ok w) :
    ∃ n, firstAccepting? ns v = some n ∧ n.clean v p = .ok w ∧
      (n.Undisturbed v → ∀ q, (options ns).clean w q = .ok w ↔ Retains ns n w) ∧
      (n.accepts w = true → (Retains ns n w ↔
        ∀ m, firstAccepting? (refusing ns v) w = some m → ∀ q, m.clean w q = .ok w)) ∧
      (n.Everywhere Steady → n.Undisturbed v) ∧
      (n.Everywhere Keeps → n.PrintsJson v → n.accepts w = true) := by
  obtain ⟨hns, hcoherent⟩ := everywhere_options.1 h.coherent
  obtain ⟨n, hfirst, hclean⟩ := (clean_options_eq_ok_iff hns).1 hw
  have hn := hcoherent n (List.mem_of_find?_eq_some hfirst)
  have haccepts := List.find?_some hfirst
  refine ⟨n, hfirst, hclean, fun hu q => ?_, fun haccepts' => ?_, fun hs => undisturbed_of_steady hs v,
    fun hk hj => accepts_of_clean hn hk hv hj haccepts hclean⟩
  · exact clean_options_iff_retains hns (hu.settlesAt hn hv w p hclean).1 q
  · obtain ⟨after, hafter⟩ := eq_refusing_append hfirst
    have hmem : n ∉ refusing ns v := fun hmem => by simp [accepts_of_mem_refusing hmem] at haccepts
    have hretains := retains_iff_of_accepts after hmem haccepts'
    rwa [← hafter] at hretains

/-- A list is printed, and the text that comes out is no number that the first option would take. -/
theorem clean_options_again_printed :
    let u := leaf (.bare .uint)
    let j := leaf (.bare .json)
    let w : Json := .string "[]"
    ofFragment (.array [.string "uint", .string "json"]) = .ok (options [u, j]) ∧
      (options [u, j]).clean (.array []) .root = .ok w ∧ (options [u, j]).clean w .root = .ok w := by
  intro u j w
  have hcompile : ofFragment (.array [.string "uint", .string "json"]) = .ok (options [u, j]) := by rfl
  have hclean : (options [u, j]).clean (.array []) .root = .ok w := by rfl
  obtain ⟨n, hfirst, -, hagain, hretains, -, haccepts⟩ :=
    clean_options_again (.compiled (by decide) hcompile) (by decide) hclean
  have hj : firstAccepting? [u, j] (.array []) = some j := by rfl
  obtain rfl : j = n := Option.some.inj (hj.symm.trans hfirst)
  have hprints : (leaf (.bare .json)).PrintsJson (.array []) := by
    rintro l x ⟨⟩ - -
    decide
  refine ⟨hcompile, hclean, (hagain .leaf .root).2 ((hretains (haccepts (by simp [j, Keeps]) hprints)).2 ?_)⟩
  intro m hm
  have hnone : firstAccepting? (refusing [u, j] (.array [])) w = none := by rfl
  rw [hnone] at hm
  cases hm

/-- A text for true is none of JSON, but the bool that it is cleaned to can be printed as one. -/
theorem clean_options_taken_over :
    ¬ ∀ (ns : List Node) (v w : Json), (options ns).Reachable → v.WellFormed →
      (options ns).failures v .root = [] → (options ns).clean v .root = .ok w →
        (options ns).clean w .root = .ok w := by
  intro h
  have hcompile : ofFragment (.array [.string "json", .string "bool"]) =
      .ok (options [leaf (.bare .json), leaf (.bare .bool)]) := by rfl
  have hsame := h _ (.string "yes") (.bool true) (.compiled (by decide) hcompile) (by decide) (by rfl) (by rfl)
  have hprinted : (options [leaf (.bare .json), leaf (.bare .bool)]).clean (.bool true) .root =
      .ok (.string "true") := by rfl
  rw [hprinted] at hsame
  cases hsame

end Node

end RecordSchema
