import Switchboard.Call.Binding
import Switchboard.Proofs.Call.Grammar

/-!
# Calls that are written and read again

A call that was read can be written as its method and its keys, and is read back
from that with its schema left out.  What makes this work is what reading leaves
of the keys: they are trimmed, hold no commas, and are not one empty key alone.
All other keys can be written and read back too.

## Main definitions

* `Call.Tidy`: keys as reading leaves them.

## Main statements

* `Call.splitKeys_intercalate`: tidy keys are read back from the list of them.
* `Call.tidy_splitKeys`: the keys of a list are tidy.
* `Call.read_renderKeys`: reading and writing calls undo each other.
-/

namespace Switchboard.Call

/-- Keys that a list can hold: trimmed ones without commas.  One empty key alone
is left out, since the list of it is the list of no keys. -/
structure Tidy (keys : List String) : Prop where
  trimmed : ∀ key ∈ keys, Text.trim key = key
  commaless : ∀ key ∈ keys, ',' ∉ key.toList
  not_empty_alone : keys ≠ [""]

/-! ## Keys -/

theorem tidy_nil : Tidy [] :=
  ⟨nofun, nofun, nofun⟩

/-- The list of tidy keys is not blank if there are any. -/
theorem exists_not_blank_of_tidy {keys : List String} (h : Tidy keys) (hsome : keys ≠ []) :
    ∃ c ∈ (",".intercalate keys).toList, Text.isBlank c = false := by
  match keys, hsome with
  | [key], _ =>
    have hkey : key.toList ≠ [] := fun hnil =>
      h.not_empty_alone (by rw [String.toList_eq_nil_iff.1 hnil])
    obtain ⟨c, rest, hchars⟩ := List.exists_cons_of_ne_nil hkey
    have htrims := Text.trim_eq_self_iff.1 (h.trimmed key List.mem_cons_self)
    refine ⟨c, ?_, htrims.head c (by rw [hchars, List.head?_cons])⟩
    simp [hchars]
  | first :: second :: rest, _ =>
    exact ⟨',', by simp [String.intercalate_cons_cons], by decide⟩

/-- Tidy keys are read back from the list of them. -/
theorem splitKeys_intercalate {keys : List String} (h : Tidy keys) :
    splitKeys (",".intercalate keys) = keys := by
  by_cases hsome : keys = []
  · subst hsome
    rfl
  · have hlists : Lists (",".intercalate keys) keys :=
      .keys (exists_not_blank_of_tidy h hsome) hsome h.commaless rfl
        (List.forall₂_same.2 fun key hmem => Text.trim_eq_self_iff.1 (h.trimmed key hmem))
    exact hlists.eq_splitKeys.symm

/-- The keys of a list are tidy. -/
theorem tidy_splitKeys (list : String) : Tidy (splitKeys list) := by
  by_cases hblank : ∀ c ∈ list.toList, Text.isBlank c = true
  · rw [splitKeys_of_blank hblank]
    exact tidy_nil
  · rw [splitKeys_of_filled (by simpa using hblank)]
    refine ⟨?_, ?_, fun halone => hblank ?_⟩
    · intro key hmem
      obtain ⟨piece, -, rfl⟩ := List.mem_map.1 hmem
      simp [Text.trim]
    · intro key hmem hcomma
      obtain ⟨piece, hpiece, rfl⟩ := List.mem_map.1 hmem
      rw [Function.comp_apply, String.toList_ofList] at hcomma
      exact Text.not_mem_of_mem_pieces hpiece ((Text.trimsTo_trimChars piece).mem hcomma)
    · obtain ⟨piece, hpieces, hkey⟩ := List.map_eq_singleton_iff.1 halone
      obtain ⟨-, -, hjoin⟩ := Text.pieces_eq_iff.1 hpieces
      rw [List.intercalate_singleton] at hjoin
      subst hjoin
      refine Text.trimsTo_nil_iff.1 (Text.trimChars_eq_iff.1 ?_)
      rw [← String.toList_ofList (l := Text.trimChars list.toList)]
      exact congrArg String.toList hkey

/-! ## Calls -/

/-- The call of a method with tidy keys is read from the text of them. -/
theorem read_callText (site : Site) {method : String} {keys : List String}
    (hmethod : Text.SpellsName method) (hkeys : Tidy keys) :
    read site (Binding.callText method keys) =
      .ok ⟨Binding.callText method keys, none, method, keys⟩ := by
  have hwritten : Written (Binding.callText method keys) none method (",".intercalate keys) :=
    ⟨nofun, hmethod, rfl⟩
  rw [read_of_written hwritten fun _ => rfl, splitKeys_intercalate hkeys]

/-- A call that was read has a name for its method and tidy keys. -/
theorem tidy_of_read {site : Site} {text : String} {call : Call}
    (h : read site text = .ok call) : Text.SpellsName call.method ∧ Tidy call.keys := by
  obtain ⟨-, -, list, hwritten, hkeys⟩ := written_of_read h
  rw [hkeys]
  exact ⟨hwritten.spells_method, tidy_splitKeys list⟩

@[simp] theorem renderKeys_empty (b : Binding) :
    b.renderKeys "" = Binding.callText b.call.method b.call.keys := by
  simp [Binding.renderKeys]

/-- A call that was read is written without quotes as a text that is read as a
call of the same method with the same keys and written as it is; a name and tidy
keys are read from the text of them; and the keys of a call that was read are
tidy. -/
theorem read_renderKeys :
    (∀ (site : Site) (text : String) (call : Call), read site text = .ok call →
      ∀ b : Binding, b.call = call → ∃ again, read .remote (b.renderKeys "") = .ok again ∧
        again.schema = none ∧ again.method = call.method ∧ again.keys = call.keys ∧
        ∀ b' : Binding, b'.call = again → b'.renderKeys "" = b.renderKeys "") ∧
    (∀ (site : Site) (method : String) (keys : List String), Text.SpellsName method → Tidy keys →
      ∃ call, read site (method ++ "(" ++ ",".intercalate keys ++ ")") = .ok call ∧
        call.schema = none ∧ call.method = method ∧ call.keys = keys) ∧
    ∀ (site : Site) (text : String) (call : Call), read site text = .ok call → Tidy call.keys := by
  refine ⟨?_, ?_, fun site text call h => (tidy_of_read h).2⟩
  · rintro site text call h b rfl
    obtain ⟨hmethod, hkeys⟩ := tidy_of_read h
    rw [renderKeys_empty]
    refine ⟨_, read_callText .remote hmethod hkeys, rfl, rfl, rfl, ?_⟩
    rintro b' hb'
    simp [hb']
  · intro site method keys hmethod hkeys
    exact ⟨_, read_callText site hmethod hkeys, rfl, rfl, rfl⟩

/-- A call with a schema, blanks of two kinds and nothing between two commas. -/
def spaced : String := "db.f( a ,,\u3000b )"

/-- Nothing between two commas is a key, also if there is nothing else. -/
theorem read_renderKeys_spaced :
    (∃ again, read .remote ((Binding.mk ⟨spaced, some "db", "f", ["a", "", "b"]⟩ .lazy
        []).renderKeys "") = .ok again ∧
      again.schema = none ∧ again.method = "f" ∧ again.keys = ["a", "", "b"] ∧
      ∀ b' : Binding, b'.call = again → b'.renderKeys "" = "f(a,,b)") ∧
    (∃ call, read .remote ("f" ++ "(" ++ ",".intercalate ["", ""] ++ ")") = .ok call ∧
      call.schema = none ∧ call.method = "f" ∧ call.keys = ["", ""]) ∧
    Tidy ["a", "", "b"] :=
  ⟨read_renderKeys.1 .sql spaced ⟨spaced, some "db", "f", ["a", "", "b"]⟩ rfl _ rfl,
    read_renderKeys.2.1 .remote "f" ["", ""] (Text.isName_iff.1 rfl)
      ⟨by decide, by decide, by decide⟩,
    read_renderKeys.2.2 .sql spaced ⟨spaced, some "db", "f", ["a", "", "b"]⟩ rfl⟩

end Switchboard.Call
