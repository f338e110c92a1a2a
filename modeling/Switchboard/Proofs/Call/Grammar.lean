import Mathlib.Data.List.Forall2
import Switchboard.Proofs.Call.Parens
import Switchboard.Proofs.Text.Names
import Switchboard.Proofs.Text.Trimming

/-!
# The grammar of calls

A call is written `method(list)` or `schema.method(list)`, with names for the
method and the schema and any text for the list.  A text can be written so in at
most one way, and it is read exactly if it is: with a schema where database calls
stand, without one elsewhere.

## Main definitions

* `Call.Written`: how a call is written.
* `Call.Lists`: the keys that a list holds.
* `Call.Spells`: a text spells a call.

## Main statements

* `Call.Written.unique`: a text is written in one way only.
* `Call.lists_iff`: a list holds the keys that are split off it.
* `Call.read_eq_ok_iff`: which texts are read, and as which call.
* `Call.read_accepts_grammar`: the grammar as a whole.
-/

namespace Switchboard.Call

/-! ## How calls are written -/

/-- A callee: a method, behind a schema and a dot if there is a schema. -/
def calleeText : Option String → String → String
  | none, method => method
  | some schema, method => schema ++ "." ++ method

/-- A text is a method or a schema and a method, and a list in parentheses. -/
structure Written (text : String) (schema : Option String) (method list : String) : Prop where
  spells_schema : ∀ name, schema = some name → Text.SpellsName name
  spells_method : Text.SpellsName method
  text_eq : text = calleeText schema method ++ "(" ++ list ++ ")"

/-- The keys that a list holds: none in a blank one, and else what stands between
its commas without the blanks around it. -/
inductive Lists (list : String) : List String → Prop
  | blank (hblank : ∀ c ∈ list.toList, Text.isBlank c = true) : Lists list []
  | keys {parts keys : List String} (hfilled : ∃ c ∈ list.toList, Text.isBlank c = false)
      (hsome : parts ≠ []) (hcommas : ∀ part ∈ parts, ',' ∉ part.toList)
      (hjoin : ",".intercalate parts = list)
      (htrim : List.Forall₂ (fun part key => Text.TrimsTo part.toList key.toList) parts keys) :
      Lists list keys

/-- A text spells a call: it is written with the schema and the method of the
call, and its list holds the keys. -/
structure Spells (text : String) (call : Call) : Prop where
  text_eq : call.text = text
  written : ∃ list, Written text call.schema call.method list ∧ Lists list call.keys

/-! ## Callees -/

theorem not_mem_calleeText {schema : Option String} {method : String}
    (hschema : ∀ name, schema = some name → Text.SpellsName name)
    (hmethod : Text.SpellsName method) : '(' ∉ (calleeText schema method).toList := by
  have hparen : ¬ Text.ContinuesName '(' := by decide
  cases schema with
  | none => exact hmethod.not_mem hparen
  | some name =>
    have hname := (hschema name rfl).not_mem hparen
    have hrest := hmethod.not_mem hparen
    simp [calleeText, hname, hrest]

theorem splitSchema_calleeText {schema : Option String} {method : String}
    (hschema : ∀ name, schema = some name → Text.SpellsName name)
    (hmethod : Text.SpellsName method) :
    splitSchema (calleeText schema method).toList = (schema.map String.toList, method.toList) := by
  have hdot : ¬ Text.ContinuesName '.' := by decide
  rw [splitSchema_eq_iff]
  cases schema with
  | none => exact Or.inl ⟨rfl, rfl, hmethod.not_mem hdot⟩
  | some name =>
    exact Or.inr ⟨name.toList, rfl, (hschema name rfl).not_mem hdot, by simp [calleeText]⟩

/-- A callee is the text of its schema and its method. -/
theorem calleeText_of_splitSchema {callee method : List Char} {schema : Option (List Char)}
    (h : splitSchema callee = (schema, method)) :
    (calleeText (schema.map String.ofList) (String.ofList method)).toList = callee := by
  rcases splitSchema_eq_iff.1 h with ⟨rfl, rfl, -⟩ | ⟨name, rfl, -, rfl⟩ <;> simp [calleeText]

section

variable {text : String} {schema : Option String} {method list : String}

theorem Written.splitParens? (h : Written text schema method list) :
    splitParens? text.toList = some ((calleeText schema method).toList, list.toList) := by
  have hmethod := h.spells_method.ne_empty
  have hcallee : (calleeText schema method).toList ≠ [] := by
    cases schema <;> simp_all [calleeText]
  rw [splitParens?_eq_some_iff]
  exact ⟨hcallee, not_mem_calleeText h.spells_schema h.spells_method, by simp [h.text_eq]⟩

/-- A text is written in one way only. -/
theorem Written.unique {schema' : Option String} {method' list' : String}
    (h : Written text schema method list) (h' : Written text schema' method' list') :
    schema = schema' ∧ method = method' ∧ list = list' := by
  obtain ⟨hcallee, hlist⟩ :=
    Prod.mk.inj (Option.some.inj (h.splitParens?.symm.trans h'.splitParens?))
  have hparts := splitSchema_calleeText h.spells_schema h.spells_method
  rw [hcallee, splitSchema_calleeText h'.spells_schema h'.spells_method] at hparts
  obtain ⟨hschema, hmethod⟩ := Prod.mk.inj hparts
  have hinjective : Function.Injective String.toList := fun _ _ => String.toList_inj.1
  exact ⟨(Option.map_injective hinjective hschema).symm, hinjective hmethod.symm,
    hinjective hlist⟩

end

/-! ## Keys -/

theorem splitKeys_of_blank {list : String} (h : ∀ c ∈ list.toList, Text.isBlank c = true) :
    splitKeys list = [] := by
  rw [splitKeys, splitKeyChars, if_pos (List.all_eq_true.2 h), List.map_nil]

theorem splitKeys_of_filled {list : String} (h : ∃ c ∈ list.toList, Text.isBlank c = false) :
    splitKeys list = (Text.pieces ',' list.toList).map (String.ofList ∘ Text.trimChars) := by
  have hfilled : ¬ list.toList.all Text.isBlank = true := by
    simpa [List.all_eq_true] using h
  rw [splitKeys, splitKeyChars, if_neg hfilled, List.map_map]

/-- A list holds the keys that are split off it. -/
theorem lists_splitKeys (list : String) : Lists list (splitKeys list) := by
  by_cases hblank : ∀ c ∈ list.toList, Text.isBlank c = true
  · rw [splitKeys_of_blank hblank]
    exact .blank hblank
  · have hfilled : ∃ c ∈ list.toList, Text.isBlank c = false := by simpa using hblank
    obtain ⟨hsome, hcommas, hjoin⟩ := Text.pieces_eq_iff.1 (rfl : Text.pieces ',' list.toList = _)
    rw [splitKeys_of_filled hfilled]
    refine @Lists.keys list ((Text.pieces ',' list.toList).map String.ofList) _ hfilled
      (by simpa using hsome) ?_ ?_ ?_
    · intro part hmem
      obtain ⟨piece, hpiece, rfl⟩ := List.mem_map.1 hmem
      rw [String.toList_ofList]
      exact hcommas piece hpiece
    · rw [← String.toList_inj, String.toList_intercalate, List.map_map]
      simp only [Function.comp_def, String.toList_ofList, List.map_id']
      exact hjoin
    · rw [List.forall₂_map_left_iff, List.forall₂_map_right_iff, List.forall₂_same]
      intro piece _
      simpa only [Function.comp_apply, String.toList_ofList] using Text.trimsTo_trimChars piece

theorem Lists.eq_splitKeys {list : String} {keys : List String} (h : Lists list keys) :
    keys = splitKeys list := by
  cases h with
  | blank hblank => rw [splitKeys_of_blank hblank]
  | @keys parts keys hfilled hsome hcommas hjoin htrim =>
    have hpieces : Text.pieces ',' list.toList = parts.map String.toList := by
      refine Text.pieces_eq_iff.2 ⟨by simpa using hsome, by simpa using hcommas, ?_⟩
      rw [← hjoin, String.toList_intercalate]
      rfl
    have htrimmed : List.Forall₂ (· = ·)
        (parts.map fun part => String.ofList (Text.trimChars part.toList)) keys := by
      rw [List.forall₂_map_left_iff]
      refine htrim.imp fun part key htrims => ?_
      rw [Text.trimChars_eq_iff.2 htrims, String.ofList_toList]
    rw [List.forall₂_eq_eq_eq] at htrimmed
    rw [splitKeys_of_filled hfilled, hpieces, List.map_map, ← htrimmed]
    rfl

/-- A list holds just the keys that are split off it. -/
theorem lists_iff {list : String} {keys : List String} : Lists list keys ↔ keys = splitKeys list :=
  ⟨Lists.eq_splitKeys, fun h => h ▸ lists_splitKeys list⟩

/-! ## Reading -/

@[simp] theorem schemaFault?_eq_none_iff {site : Site} {name : String} :
    schemaFault? site name = none ↔ site = .sql ∧ Text.SpellsName name := by
  cases site with
  | sql => simp [schemaFault?]
  | remote =>
    -- a schema that is not blank is refused as such, and a blank one is no name
    refine iff_of_false ?_ nofun
    cases hblank : Text.isAllBlank name with
    | false => simp [schemaFault?, hblank]
    | true =>
      have hname : ¬ Text.SpellsName name := fun h => by simp [h.not_isAllBlank] at hblank
      simp [schemaFault?, hblank, hname]

/-- What is written as a call is read as that call, unless it has a schema where
none may stand. -/
theorem read_of_written {site : Site} {text : String} {schema : Option String}
    {method list : String} (h : Written text schema method list)
    (hsite : site = .remote → schema = none) :
    read site text = .ok ⟨text, schema, method, splitKeys list⟩ := by
  have hmethod : Text.isName method = true := Text.isName_iff.2 h.spells_method
  have hfault : schema.bind (schemaFault? site) = none := by
    cases schema with
    | none => rfl
    | some name =>
      refine schemaFault?_eq_none_iff.2 ⟨?_, h.spells_schema name rfl⟩
      cases site with
      | sql => rfl
      | remote => cases hsite rfl
  have hschema : (schema.map String.toList).map String.ofList = schema := by
    cases schema <;> simp
  simp only [read, h.splitParens?, splitSchema_calleeText h.spells_schema h.spells_method,
    String.ofList_toList, hschema, hmethod, hfault, splitKeys, Bool.not_true, Bool.false_eq_true,
    if_false]

/-- What is read as a call is written as that call. -/
theorem written_of_read {site : Site} {text : String} {call : Call}
    (h : read site text = .ok call) :
    (site = .remote → call.schema = none) ∧ call.text = text ∧
      ∃ list, Written text call.schema call.method list ∧ call.keys = splitKeys list := by
  unfold read at h
  split at h
  · cases h
  · rename_i callee list hparts
    obtain ⟨-, -, htext⟩ := splitParens?_eq_some_iff.1 hparts
    obtain ⟨schema, method, hsplit⟩ : ∃ schema method, splitSchema callee = (schema, method) :=
      ⟨_, _, rfl⟩
    simp only [hsplit] at h
    split at h
    · cases h
    · rename_i hmethod
      split at h
      · cases h
      · rename_i hfault
        obtain rfl := Except.ok.inj h
        have hnames : ∀ name, schema.map String.ofList = some name →
            site = .sql ∧ Text.SpellsName name := by
          intro name hname
          rw [hname] at hfault
          exact schemaFault?_eq_none_iff.1 hfault
        refine ⟨?_, rfl, String.ofList list, ⟨fun name hname => (hnames name hname).2, ?_, ?_⟩, ?_⟩
        · intro hsite
          refine Option.eq_none_iff_forall_ne_some.2 fun name hname => ?_
          cases hsite.symm.trans (hnames name hname).1
        · exact Text.isName_iff.1 (by simpa using hmethod)
        · rw [← String.toList_inj]
          simp [htext, calleeText_of_splitSchema hsplit]
        · rw [splitKeys, String.toList_ofList]

/-- A text is read as the call that it spells, if that call may stand at the site. -/
theorem read_eq_ok_iff {site : Site} {text : String} {call : Call} :
    read site text = .ok call ↔ Spells text call ∧ (site = .remote → call.schema = none) := by
  constructor
  · intro h
    obtain ⟨hsite, htext, list, hwritten, hkeys⟩ := written_of_read h
    exact ⟨⟨htext, list, hwritten, lists_iff.2 hkeys⟩, hsite⟩
  · rintro ⟨⟨rfl, list, hwritten, hlists⟩, hsite⟩
    rw [read_of_written hwritten hsite, ← lists_iff.1 hlists]

/-! ## The two sites -/

/-- No dot stands in front of the first parenthesis. -/
def Unqualified (text : String) : Prop :=
  '.' ∉ text.toList.takeWhile (· != '(')

theorem Spells.schema_eq_none {text : String} {call : Call} (h : Spells text call)
    (hplain : Unqualified text) : call.schema = none := by
  obtain ⟨list, hwritten, -⟩ := h.written
  have htext : text.toList =
      (calleeText call.schema call.method).toList ++ '(' :: (list.toList ++ [')']) := by
    simp [hwritten.text_eq]
  have hopen := not_mem_calleeText hwritten.spells_schema hwritten.spells_method
  rw [Unqualified, htext, Text.takeWhile_append_cons hopen] at hplain
  cases hschema : call.schema with
  | none => rfl
  | some name => simp [hschema, calleeText] at hplain

/-- Both sites read a text without a schema alike. -/
theorem toOption_read_eq {text : String} (h : Unqualified text) :
    (read .remote text).toOption = (read .sql text).toOption := by
  have hsame : ∀ call, read .remote text = .ok call ↔ read .sql text = .ok call := by
    intro call
    rw [read_eq_ok_iff, read_eq_ok_iff]
    exact ⟨fun hread => ⟨hread.1, nofun⟩, fun hread => ⟨hread.1, fun _ => hread.1.schema_eq_none h⟩⟩
  cases hremote : read .remote text with
  | ok call => rw [(hsame call).1 hremote]
  | error fault =>
    cases hsql : read .sql text with
    | error _ => rfl
    | ok call => cases hremote.symm.trans ((hsame call).2 hsql)

/-- A database call is read exactly from the texts `method(list)` and
`schema.method(list)`, any other call from the texts `method(list)`, whatever the
list is; a text is written so in one way only, and the call that is read has its
parts.  No position in bytes goes wrong on the way to them. -/
theorem read_accepts_grammar :
    (∀ text, (∃ call, read .sql text = .ok call) ↔
      ∃ schema method list, Written text schema method list) ∧
    (∀ text, (∃ call, read .remote text = .ok call) ↔ ∃ method list, Written text none method list) ∧
    (∀ site text call, read site text = .ok call → Spells text call) ∧
    (∀ text schema method list schema' method' list', Written text schema method list →
      Written text schema' method' list' → schema = schema' ∧ method = method' ∧ list = list') ∧
    (∀ list, ∃! keys, Lists list keys) ∧
    (∀ text, cutParens? text = some (splitParens? text.toList)) ∧
    ∀ text, Unqualified text → (read .remote text).toOption = (read .sql text).toOption := by
  refine ⟨fun text => ⟨?_, ?_⟩, fun text => ⟨?_, ?_⟩,
    fun site text call h => (read_eq_ok_iff.1 h).1, fun text _ _ _ _ _ _ h h' => h.unique h', fun list => ?_, cutParens?_eq,
    fun text h => toOption_read_eq h⟩
  · rintro ⟨call, hread⟩
    obtain ⟨list, hwritten, -⟩ := (read_eq_ok_iff.1 hread).1.written
    exact ⟨_, _, list, hwritten⟩
  · rintro ⟨schema, method, list, hwritten⟩
    exact ⟨_, read_of_written hwritten nofun⟩
  · rintro ⟨call, hread⟩
    obtain ⟨hspells, hschema⟩ := read_eq_ok_iff.1 hread
    obtain ⟨list, hwritten, -⟩ := hspells.written
    rw [hschema rfl] at hwritten
    exact ⟨_, list, hwritten⟩
  · rintro ⟨method, list, hwritten⟩
    exact ⟨_, read_of_written hwritten fun _ => rfl⟩
  · exact ⟨splitKeys list, lists_splitKeys list, fun keys h => h.eq_splitKeys⟩

/-- A call whose list holds a comma behind a wide blank, parentheses that do not
match, a dot, a line break and a letter of two bytes. -/
def crowded : String := "db.f(x, g(é)),\u3000 a.b\n,)"

/-- Nothing in a list but commas and blanks counts, and its dots make no schema. -/
theorem read_accepts_crowded :
    Spells crowded ⟨crowded, some "db", "f", ["x", "g(é))", "a.b", ""]⟩ ∧
      cutParens? crowded = some (splitParens? crowded.toList) ∧
      (read .remote "f(a.b)").toOption = (read .sql "f(a.b)").toOption :=
  ⟨read_accepts_grammar.2.2.1 .sql crowded _ rfl, read_accepts_grammar.2.2.2.2.2.1 crowded,
    read_accepts_grammar.2.2.2.2.2.2 "f(a.b)" (by unfold Unqualified; decide)⟩

end Switchboard.Call
