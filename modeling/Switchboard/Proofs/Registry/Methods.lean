import Mathlib.Data.List.Forall2
import Switchboard.Proofs.Access.Methods
import Switchboard.Proofs.Registry.Reordering
import Switchboard.Proofs.Text.Pieces

/-!
# Methods in a list and in one text

The methods of callers are listed in an array, or in one text with commas between them.
Both are read as the set of what is listed, without blanks around it and without what is
blank; and where nothing else is listed there is no set, so that any method will do.

## Main definitions

* `Text.Joined`: texts in one text, with separators between them and blanks around them.

## Main statements

* `Entry.methodSet_of_joined`: joined texts are read as the list of them.
* `Entry.readMethods_cases`: which values are read, and as what.
* `Gate.methodFits_iff_means`: the callers that listed methods let in.
* `Entry.methods_read_alike`: both spellings, and what each accepted value is read as.
-/

namespace Switchboard

/-! ## Joined texts -/

namespace Text

/-- A text with blanks around it. -/
def Padded (cs padded : List Char) : Prop :=
  ∃ before after, padded = before ++ (cs ++ after) ∧ (∀ c ∈ before, isBlank c = true) ∧
    ∀ c ∈ after, isBlank c = true

theorem Padded.trimChars_eq {cs padded : List Char} (h : Padded cs padded) :
    trimChars padded = trimChars cs := by
  obtain ⟨before, after, rfl, hbefore, hafter⟩ := h
  exact trimChars_between_blanks hbefore hafter

theorem Padded.not_mem {cs padded : List Char} (h : Padded cs padded) {c : Char}
    (hblank : isBlank c = false) (hc : c ∉ cs) : c ∉ padded := by
  obtain ⟨before, after, rfl, hbefore, hafter⟩ := h
  have hout : ∀ {ds : List Char}, (∀ d ∈ ds, isBlank d = true) → c ∉ ds :=
    fun hds hmem => Bool.false_ne_true (hblank.symm.trans (hds c hmem))
  simp only [List.mem_append, not_or]
  exact ⟨hout hbefore, hc, hout hafter⟩

/-- Texts in one text: with a separator between any two, and blanks around each. -/
def Joined (separator : Char) (items : List String) (text : String) : Prop :=
  ∃ parts, List.Forall₂ (fun item part => Padded item.toList part) items parts ∧
    text.toList = [separator].intercalate parts

/-- Without separators of their own, texts are the pieces of what they are joined to. -/
theorem Joined.pieces_eq {separator : Char} {items : List String} {text : String}
    (h : Joined separator items text) (hblank : isBlank separator = false)
    (hitems : ∀ item ∈ items, separator ∉ item.toList) (hne : items ≠ []) :
    List.Forall₂ (fun item part => Padded item.toList part) items
      (pieces separator text.toList) := by
  obtain ⟨parts, hparts, htext⟩ := h
  have hnot : ∀ part ∈ parts, separator ∉ part := by
    intro part hpart
    obtain ⟨i, hi, rfl⟩ := List.getElem_of_mem hpart
    have hi' : i < items.length := hparts.length_eq ▸ hi
    exact (hparts.get hi' hi).not_mem hblank (hitems _ (List.getElem_mem hi'))
  have hparts' : parts ≠ [] := by
    rintro rfl
    cases hparts
    exact hne rfl
  rw [pieces_eq_iff.2 ⟨hparts', hnot, htext.symm⟩]
  exact hparts

@[simp] theorem trim_ofList (cs : List Char) :
    trim (String.ofList cs) = String.ofList (trimChars cs) := by
  rw [trim, String.toList_ofList]

/-- Blanks around texts are trimmed off them. -/
theorem map_trim_of_padded {items : List String} {parts : List (List Char)}
    (h : List.Forall₂ (fun item part => Padded item.toList part) items parts) :
    items.map trim = parts.map (trim ∘ String.ofList) := by
  induction h with
  | nil => rfl
  | cons hpadded _ ih =>
    simp [ih, hpadded.trimChars_eq, trim]

/-- A text is blank exactly if nothing is left of it by trimming. -/
theorem isAllBlank_iff {s : String} : isAllBlank s = true ↔ trim s = "" := by
  simp [isAllBlank]

end Text

/-! ## What is read -/

namespace Entry

open Text (Joined)

/-- Only an array of texts is read item by item as texts. -/
theorem eq_map_str_of_mapM_str? {items : List Json} {listed : List String}
    (h : items.mapM Json.str? = some listed) : items = listed.map .str := by
  induction items generalizing listed with
  | nil =>
    obtain rfl := Option.some.inj h
    rfl
  | cons item rest ih =>
    rw [List.mapM_cons] at h
    obtain ⟨text, htext, h⟩ := Option.bind_eq_some_iff.1 h
    obtain ⟨others, hothers, h⟩ := Option.bind_eq_some_iff.1 h
    obtain rfl := Option.some.inj h
    cases item with
    | str s =>
      obtain rfl := Option.some.inj htext
      rw [ih hothers, List.map_cons]
    | _ => cases htext

/-- What is read is `null`, which lists nothing, or a value that lists methods. -/
theorem readMethods_cases {v : Json} {methods : Option TextSet}
    (h : readMethods v = .ok methods) :
    ∃ listed, (v = .null ∧ listed = [] ∨ Lists v listed) ∧ methods = methodSet listed := by
  unfold readMethods at h
  split at h
  · exact ⟨[], Or.inl ⟨rfl, rfl⟩, (Except.ok.inj h).symm⟩
  · exact ⟨_, Or.inr (.text _), (Except.ok.inj h).symm⟩
  · split at h
    · rename_i listed hlisted
      obtain rfl := eq_map_str_of_mapM_str? hlisted
      exact ⟨listed, Or.inr (.array listed), (Except.ok.inj h).symm⟩
    · cases h
  · cases h

/-- Blanks around what is listed do not count. -/
theorem methodSet_of_map_trim {listed listed' : List String}
    (h : listed.map Text.trim = listed'.map Text.trim) : methodSet listed = methodSet listed' := by
  simp only [methodSet, h]

/-- Methods in one text are read as the list of them. -/
theorem methodSet_of_joined {listed : List String} {text : String}
    (hcomma : ∀ method ∈ listed, ',' ∉ method.toList) (h : Joined ',' listed text) :
    methodSet (splitMethods text) = methodSet listed := by
  cases listed with
  | nil =>
    -- No methods are joined to the empty text, which still has one piece, a blank one.
    obtain ⟨_, ⟨⟩, htext⟩ := h
    rw [splitMethods, htext]
    rfl
  | cons first rest =>
    have hpieces := h.pieces_eq (by decide) hcomma (List.cons_ne_nil first rest)
    refine methodSet_of_map_trim ?_
    rw [splitMethods, List.map_map]
    exact (Text.map_trim_of_padded hpieces).symm

/-- What is in the set of listed methods: each that is not blank, without the blanks
around it. -/
theorem mem_of_methodSet {listed : List String} {set : TextSet}
    (h : methodSet listed = some set) (method : String) :
    method ∈ set.toList ↔ ∃ raw ∈ listed, Text.isAllBlank raw = false ∧ Text.trim raw = method := by
  simp only [methodSet] at h
  split at h
  · cases h
  · obtain rfl := Option.some.inj h
    rw [TextSet.toList, TextSet.mem_keys_ofList, List.mem_filter, List.mem_map]
    constructor
    · rintro ⟨⟨raw, hraw, rfl⟩, hfilled⟩
      exact ⟨raw, hraw, Bool.eq_false_iff.2 (mt Text.isAllBlank_iff.1 (by simpa using hfilled)),
        rfl⟩
    · rintro ⟨raw, hraw, hblank, rfl⟩
      have hfilled := mt Text.isAllBlank_iff.2 (Bool.eq_false_iff.1 hblank)
      exact ⟨⟨raw, hraw, rfl⟩, by simpa using hfilled⟩

/-- There is no set exactly if nothing but blanks is listed. -/
@[simp] theorem methodSet_eq_none_iff {listed : List String} :
    methodSet listed = none ↔ ∀ method ∈ listed, Text.isAllBlank method = true := by
  constructor
  · intro h
    simp only [methodSet] at h
    split at h
    · rename_i hempty
      intro method hmethod
      have hnot : Text.trim method ∉ (TextSet.ofList
          ((listed.map Text.trim).filter fun method => !method.isEmpty)).keys := by
        rw [isEmpty_eq_true_iff.1 hempty]
        exact List.not_mem_nil
      rw [TextSet.mem_keys_ofList, List.mem_filter, not_and] at hnot
      exact Text.isAllBlank_iff.2 (by simpa using hnot (List.mem_map_of_mem hmethod))
    · cases h
  · intro h
    cases hset : methodSet listed with
    | none => rfl
    | some set =>
      -- A set has a member, and that is what is left of a listed method.
      obtain ⟨method, hmethod⟩ := List.exists_mem_of_ne_nil _ (trimmed_of_methodSet hset).1
      obtain ⟨raw, hraw, hblank, -⟩ := (mem_of_methodSet hset method).1 hmethod
      exact absurd (h raw hraw) (Bool.eq_false_iff.1 hblank)

end Entry

/-! ## At the gate -/

namespace Verb

/-- A text means the verb that it means without the blanks around it. -/
@[simp] theorem ofText?_trim (s : String) : ofText? (Text.trim s) = ofText? s := by
  simp [ofText?]

/-- A blank text means no verb. -/
theorem isAllBlank_of_ofText? {s : String} {verb : Verb} (h : ofText? s = some verb) :
    Text.isAllBlank s = false := by
  rw [ofText?_eq_some_iff] at h
  refine Bool.eq_false_iff.2 fun hblank => ?_
  rw [Text.isAllBlank_iff.1 hblank] at h
  cases verb <;> exact absurd h (by decide)

end Verb

namespace Gate

variable {caller : Caller} {entry : Entry}

/-- Listed methods let in the callers whose method one of them means, and all callers if
nothing but blanks is listed. -/
theorem methodFits_iff_means {listed : List String}
    (h : entry.allowedMethods = Entry.methodSet listed) :
    MethodFits caller entry ↔ (∀ method ∈ listed, Text.isAllBlank method = true) ∨
      ∃ method ∈ listed, Verb.ofText? method = some caller.method := by
  cases hset : Entry.methodSet listed with
  | none =>
    have hblank := Entry.methodSet_eq_none_iff.1 hset
    exact iff_of_true (by simp [MethodFits, h, hset]) (Or.inl hblank)
  | some set =>
    have hsome : ¬ ∀ method ∈ listed, Text.isAllBlank method = true := by
      rw [← Entry.methodSet_eq_none_iff, hset]
      exact Option.some_ne_none set
    have hlists := (Entry.trimmed_of_methodSet hset).1
    rw [or_iff_right hsome, methodFits_iff_listed (h.trans hset) hlists]
    constructor
    · rintro ⟨_, hmem, -, hmeans⟩
      obtain ⟨raw, hraw, -, rfl⟩ := (Entry.mem_of_methodSet hset _).1 hmem
      exact ⟨raw, hraw, Verb.ofText?_trim raw ▸ hmeans⟩
    · rintro ⟨raw, hraw, hmeans⟩
      exact ⟨Text.trim raw,
        (Entry.mem_of_methodSet hset _).2 ⟨raw, hraw, Verb.isAllBlank_of_ofText? hmeans, rfl⟩,
        Text.trim_trim raw, (Verb.ofText?_trim raw).trans hmeans⟩

end Gate

/-! ## Both spellings -/

namespace Entry

open Text (Joined)

/-- Methods without commas are read alike from an array and from one text with commas
between them and blanks around them, and so is an entry, whether its fields are named or
listed.  Whatever is read lists methods or is `null`; it is read as no set exactly if
nothing but blanks is listed, and else as the set, which is not empty, of what is left of
the listed methods without the blanks around them.  At the gate an entry with these
methods lets in the callers whose method one of them means, and all callers if there is
no set. -/
theorem methods_read_alike :
    (∀ (listed : List String) (text : String), (∀ method ∈ listed, ',' ∉ method.toList) →
      Joined ',' listed text →
      readMethods (Json.texts listed) = .ok (methodSet listed) ∧
      readMethods (.str text) = .ok (methodSet listed) ∧
      (∀ before after : Json.Fields,
        ofJson (.obj (before ++ ("allowedCallerMethods", .str text) :: after)) =
          ofJson (.obj (before ++ ("allowedCallerMethods", Json.texts listed) :: after))) ∧
      ∀ (execution minVersion tag : Json) (after : List Json),
        ofJson (.arr (execution :: minVersion :: tag :: .str text :: after)) =
          ofJson (.arr (execution :: minVersion :: tag :: Json.texts listed :: after))) ∧
    ∀ (v : Json) (methods : Option TextSet), readMethods v = .ok methods →
      ∃ listed, (v = .null ∧ listed = [] ∨ Lists v listed) ∧
        (methods = none ↔ ∀ method ∈ listed, Text.isAllBlank method = true) ∧
        (∀ set, methods = some set → Trimmed set ∧ ∀ method, method ∈ set.toList ↔
          ∃ raw ∈ listed, Text.isAllBlank raw = false ∧ Text.trim raw = method) ∧
        ∀ (caller : Caller) (entry : Entry), entry.allowedMethods = methods →
          (Gate.MethodFits caller entry ↔ methods = none ∨
            ∃ method ∈ listed, Verb.ofText? method = some caller.method) := by
  constructor
  · intro listed text hcomma hjoined
    have harray := (Lists.array listed).readMethods
    have htext : readMethods (.str text) = .ok (methodSet listed) := by
      rw [(Lists.text text).readMethods, methodSet_of_joined hcomma hjoined]
    have hsame := htext.trans harray.symm
    exact ⟨harray, htext, fun before after => ofFields_methods hsame before after,
      fun execution minVersion tag after => ofItems_methods hsame execution minVersion tag after⟩
  · intro v methods h
    obtain ⟨listed, hlists, rfl⟩ := readMethods_cases h
    refine ⟨listed, hlists, methodSet_eq_none_iff, fun set hset => ?_,
      fun caller entry hentry => ?_⟩
    · exact ⟨trimmed_of_methodSet hset, mem_of_methodSet hset⟩
    · simp [Gate.methodFits_iff_means hentry]

/-- Methods one of which is blank and one of which is listed twice. -/
def fewMethods : List String :=
  ["GET", " put", "", "GET"]

/-- These methods with a tab, an ideographic space and other blanks between them. -/
def fewMethodsJoined : String :=
  "GET\t, put ,\u3000, GET"

/-- Both spellings of these methods are read as two methods, which let in callers that put
and none that post. -/
theorem methods_read_alike_few :
    (∀ method ∈ fewMethods, ',' ∉ method.toList) ∧ Joined ',' fewMethods fewMethodsJoined ∧
      readMethods (.str fewMethodsJoined) = .ok (some (TextSet.ofList ["GET", "put"])) ∧
      ofJson (.obj [("executionKind", .int 0), ("allowedCallerMethods", .str fewMethodsJoined)]) =
        ofJson (.obj [("executionKind", .int 0),
          ("allowedCallerMethods", Json.texts fewMethods)]) ∧
      ∀ entry : Entry, entry.allowedMethods = some (TextSet.ofList ["GET", "put"]) →
        Gate.MethodFits ⟨.put, none, 0⟩ entry ∧ ¬ Gate.MethodFits ⟨.post, none, 0⟩ entry := by
  have hcomma : ∀ method ∈ fewMethods, ',' ∉ method.toList := by decide
  have hjoined : Joined ',' fewMethods fewMethodsJoined := by
    have hblank : ∀ {c : Char}, Text.isBlank c = true → ∀ d ∈ [c], Text.isBlank d = true :=
      fun h => List.forall_mem_singleton.2 h
    refine ⟨["GET\t".toList, " put ".toList, "\u3000".toList, " GET".toList], ?_, by decide⟩
    exact .cons ⟨[], ['\t'], by decide, nofun, hblank rfl⟩ <|
      .cons ⟨[], [' '], by decide, nofun, hblank rfl⟩ <|
      .cons ⟨[], ['\u3000'], by decide, nofun, hblank rfl⟩ <|
      .cons ⟨[' '], [], by decide, hblank rfl, nofun⟩ .nil
  obtain ⟨-, htext, hfields, -⟩ := methods_read_alike.1 fewMethods fewMethodsJoined hcomma hjoined
  have hset : methodSet fewMethods = some (TextSet.ofList ["GET", "put"]) := by decide +kernel
  rw [hset] at htext
  refine ⟨hcomma, hjoined, htext, hfields [("executionKind", .int 0)] [], fun entry hentry => ?_⟩
  obtain ⟨listed, ⟨⟨⟩, -⟩ | ⟨⟨⟩⟩, -, -, hgate⟩ := methods_read_alike.2 _ _ htext
  have hmeans : ∀ verb : Verb, Gate.MethodFits ⟨verb, none, 0⟩ entry ↔
      ∃ method ∈ splitMethods fewMethodsJoined, Verb.ofText? method = some verb := fun verb => by
    rw [hgate _ entry hentry, or_iff_right (Option.some_ne_none _)]
  rw [hmeans, hmeans]
  decide +kernel

end Entry

end Switchboard
