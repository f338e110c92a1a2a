import Switchboard.Proofs.Registry.Reordering

/-!
# Revisions of a registry and their digests

A revision is identified by the digest of its written form.  The written form says
everything of the entries: those that differ in anything are written differently, as
long as no way of running is unknown that has the name of a known one.  Nothing but the
digest can therefore confuse two revisions.  It says nothing more either: in what order
entries, fields and methods were given is lost.

## Main definitions

* `Entry.Made`: entries that were read or made by hand.
* `Registry.canonicalBytes`: what the digest of a revision is the digest of.
* `Digest.Collide`: two messages with one digest.

## Main statements

* `Entry.eq_of_toJson_eq`: an entry is determined by its written form.
* `Registry.canonicalBytes_inj`: so is a revision.
* `Registry.digest_identifies_revision`: which revisions have one digest.
-/

namespace Switchboard

/-! ## Bytes and digests -/

namespace Digest

/-- Two messages are told apart, but not by their digests. -/
def Collide (message message' : List UInt8) : Prop :=
  message ≠ message' ∧ sha256 message = sha256 message'

/-- Two hexadecimal digits determine a byte. -/
theorem eq_of_digitChar_eq {a b : UInt8}
    (hhigh : Nat.digitChar (a.toNat / 16) = Nat.digitChar (b.toNat / 16))
    (hlow : Nat.digitChar (a.toNat % 16) = Nat.digitChar (b.toNat % 16)) : a = b := by
  have hdigit : ∀ m < 16, ∀ n < 16, Nat.digitChar m = Nat.digitChar n → m = n := by decide
  have ha := a.toNat_lt
  have hb := b.toNat_lt
  have hdiv := hdigit (a.toNat / 16) (by omega) (b.toNat / 16) (by omega) hhigh
  have hmod := hdigit (a.toNat % 16) (by omega) (b.toNat % 16) (by omega) hlow
  exact UInt8.toNat_inj.1 (by omega)

theorem hex_injective : Function.Injective hex := by
  intro bytes bytes' h
  have hchars := String.ofList_injective h
  clear h
  induction bytes generalizing bytes' with
  | nil =>
    cases bytes' with
    | nil => rfl
    | cons b rest => cases hchars
  | cons a rest ih =>
    cases bytes' with
    | nil => cases hchars
    | cons b rest' =>
      simp only [List.flatMap_cons, List.cons_append, List.nil_append, List.cons.injEq] at hchars
      obtain ⟨hhigh, hlow, hrest⟩ := hchars
      rw [eq_of_digitChar_eq hhigh hlow, ih hrest]

/-- Digests in hexadecimal are equal exactly for equal messages and for those that collide. -/
theorem hex_sha256_eq_iff {message message' : List UInt8} :
    hex (sha256 message) = hex (sha256 message') ↔
      message = message' ∨ Collide message message' := by
  rw [hex_injective.eq_iff]
  constructor
  · intro h
    by_cases hsame : message = message'
    · exact Or.inl hsame
    · exact Or.inr ⟨hsame, h⟩
  · rintro (rfl | ⟨-, h⟩)
    · rfl
    · exact h

end Digest

/-- The bytes of an array from a place on are listed behind those before it. -/
@[simp] theorem toList_loop (bytes : ByteArray) (i : Nat) (before : List UInt8) :
    ByteArray.toList.loop bytes i before = before.reverse ++ bytes.data.toList.drop i := by
  fun_induction ByteArray.toList.loop bytes i before with
  | case1 i before hlt ih =>
    have hi : i < bytes.data.toList.length := by simpa using hlt
    have hget : bytes.get! i = bytes.data.toList[i] := getElem!_pos bytes.data i hi
    rw [ih, List.drop_eq_getElem_cons hi, List.reverse_cons, List.append_assoc, hget]
    rfl
  | case2 i before hge =>
    rw [List.drop_eq_nil_of_le (Nat.le_of_not_lt hge), List.append_nil]

/-- An array of bytes is determined by the list of them. -/
theorem byteArray_toList_injective : Function.Injective ByteArray.toList := by
  intro bytes bytes' h
  have hdata : ∀ bytes : ByteArray, bytes.toList = bytes.data.toList := fun bytes =>
    toList_loop bytes 0 []
  rw [hdata, hdata] at h
  exact ByteArray.ext (Array.toList_inj.1 h)

/-! ## Entries -/

namespace Entry

/-- An entry that was read with a registry, or made of one for a native function or a
script by setting its fields. -/
inductive Made : Entry → Prop
  | read {raw : Json} {registry : Registry} {row : String × Entry}
      (h : Registry.ofJson raw = .ok registry) (hmem : row ∈ registry.entries) : Made row.2
  | native : Made .native
  | script (source : String) : Made (.script source)
  | minVersion {entry : Entry} (h : Made entry) {version : Int}
      (hversion : Decimal.isInt64 version = true) : Made { entry with minVersion := version }
  | requiredTag {entry : Entry} (h : Made entry) (tag : String) :
      Made { entry with requiredTag := some tag }
  | allowedMethods {entry : Entry} (h : Made entry) (methods : List String) :
      Made { entry with allowedMethods := some (TextSet.ofList methods) }
  | returns {entry : Entry} (h : Made entry) (type : String) :
      Made { entry with returns := some type }

/-- How an entry runs is what the name of it means. -/
theorem Made.execution {entry : Entry} (h : Made entry) :
    Execution.ofName entry.execution.name = entry.execution := by
  induction h with
  | read hread hmem => exact (Registry.normal_of_ofJson hread _ hmem).execution
  | native | script => rfl
  | minVersion _ _ ih | requiredTag _ _ ih | allowedMethods _ _ ih | returns _ _ ih => exact ih

theorem Made.isInt64_minVersion {entry : Entry} (h : Made entry) :
    Decimal.isInt64 entry.minVersion = true := by
  induction h with
  | read hread hmem => exact (Registry.normal_of_ofJson hread _ hmem).minVersion
  | native | script => rfl
  | minVersion _ hversion => exact hversion
  | requiredTag _ _ ih | allowedMethods _ _ ih | returns _ _ ih => exact ih

/-- An entry is determined by its written form if how it runs is what the name of it means. -/
theorem eq_of_toJson_eq {entry entry' : Entry}
    (hname : Execution.ofName entry.execution.name = entry.execution)
    (hname' : Execution.ofName entry'.execution.name = entry'.execution)
    (h : entry.toJson = entry'.toJson) : entry = entry' := by
  have hfields : entry.fields = entry'.fields := Json.obj.inj h
  have hspells := entry.spells_fields
  have hspells' : entry'.Spells entry.fields := hfields ▸ entry'.spells_fields
  have htext : Function.Injective Json.str := fun _ _ => Json.str.inj
  have hset : Function.Injective fun set : TextSet => Json.texts set.keys := by
    intro set set' h
    have hkeys : set.keys = set'.keys := htext.list_map (Json.arr.inj h)
    rw [← set.ofList_keys, hkeys, set'.ofList_keys]
  have hexecution : entry.execution = entry'.execution := by
    have hsame := Option.some.inj (hspells.execution.symm.trans hspells'.execution)
    rw [← hname, htext hsame, hname']
  have hminVersion : entry.minVersion = entry'.minVersion := by
    have hsame := Option.some.inj (hspells.minVersion.symm.trans hspells'.minVersion)
    simpa [Json.int] using hsame
  have htag := Option.map_injective htext (hspells.tag.symm.trans hspells'.tag)
  have hmethods := Option.map_injective hset (hspells.methods.symm.trans hspells'.methods)
  have hreturns := Option.map_injective htext (hspells.returns.symm.trans hspells'.returns)
  have hsource := Option.map_injective htext (hspells.source.symm.trans hspells'.source)
  cases entry
  cases entry'
  simp only [Entry.mk.injEq]
  exact ⟨hexecution, hminVersion, htag, hmethods, hreturns, hsource⟩

theorem Made.eq_of_toJson_eq {entry entry' : Entry} (h : entry.Made) (h' : entry'.Made)
    (heq : entry.toJson = entry'.toJson) : entry = entry' :=
  Entry.eq_of_toJson_eq h.execution h'.execution heq

end Entry

/-! ## Registries -/

namespace Registry

/-- Every entry was read or made by hand. -/
def Made (registry : Registry) : Prop :=
  ∀ row ∈ registry.entries, row.2.Made

/-- The entries of a registry that was read were. -/
theorem made_of_ofJson {raw : Json} {registry : Registry} (h : ofJson raw = .ok registry) :
    Made registry :=
  fun _ hmem => .read h hmem

theorem eq_of_map_toJson_eq {rows rows' : List (String × Entry)} (h : ∀ row ∈ rows, row.2.Made)
    (h' : ∀ row ∈ rows', row.2.Made)
    (heq : (rows.map fun row => (row.1, row.2.toJson)) =
      rows'.map fun row => (row.1, row.2.toJson)) : rows = rows' := by
  induction rows generalizing rows' with
  | nil => exact (List.map_eq_nil_iff.1 heq.symm).symm
  | cons row rest ih =>
    cases rows' with
    | nil => cases heq
    | cons row' rest' =>
      simp only [List.map_cons, List.cons.injEq, Prod.mk.injEq] at heq
      obtain ⟨⟨hname, hentry⟩, hrest⟩ := heq
      rw [List.forall_mem_cons] at h h'
      rw [Prod.ext hname (h.1.eq_of_toJson_eq h'.1 hentry), ih h.2 h'.2 hrest]

/-- A registry is determined by its written form. -/
theorem Made.eq_of_toJson_eq {registry registry' : Registry} (h : registry.Made)
    (h' : registry'.Made) (heq : registry.toJson = registry'.toJson) : registry = registry' := by
  rw [← registry.ofList_entries, eq_of_map_toJson_eq h h' (Json.obj.inj heq),
    registry'.ofList_entries]

/-- The bytes that the digest is computed of. -/
def canonicalBytes (registry : Registry) : List UInt8 :=
  registry.canonicalText.toUTF8.toList

theorem digest_eq (registry : Registry) :
    registry.digest = Digest.hex (Digest.sha256 registry.canonicalBytes) := rfl

/-- The written form is read back from the text, so the text determines it. -/
theorem Made.toJson_eq_of_canonicalText_eq {registry registry' : Registry} (h : registry.Made)
    (h' : registry'.Made) (heq : registry.canonicalText = registry'.canonicalText) :
    registry.toJson = registry'.toJson := by
  have hread : ∀ {registry : Registry}, registry.Made →
      Json.document? registry.canonicalText = some registry.toJson := fun hmade =>
    Json.document?_compact
      (readable_toJson (fun row hmem => (hmade row hmem).isInt64_minVersion) 124)
  exact Option.some.inj (by rw [← hread h, ← hread h', heq])

/-- Revisions are different exactly if something else is digested. -/
theorem canonicalBytes_inj {registry registry' : Registry} (h : registry.Made)
    (h' : registry'.Made) :
    registry.canonicalBytes = registry'.canonicalBytes ↔ registry = registry' := by
  constructor
  · intro hbytes
    have htext : registry.canonicalText = registry'.canonicalText :=
      String.toByteArray_inj.1 (byteArray_toList_injective hbytes)
    exact h.eq_of_toJson_eq h' (h.toJson_eq_of_canonicalText_eq h' htext)
  · rintro rfl
    rfl

/-- Revisions that were read or made by hand are digested from the same bytes exactly if
they are the same, so nothing but a collision gives two of them one digest.  The order in
which anything is given makes no other revision: not that of rows, fields and methods in
what is read, and not that of entries and methods in what is made by hand. -/
theorem digest_identifies_revision :
    (∀ {registry registry' : Registry}, registry.Made → registry'.Made →
      (registry.canonicalBytes = registry'.canonicalBytes ↔ registry = registry') ∧
        (registry.digest = registry'.digest ↔ registry = registry' ∨
          Digest.Collide registry.canonicalBytes registry'.canonicalBytes)) ∧
    (∀ {raw : Json} {registry : Registry}, ofJson raw = .ok registry →
      registry.Made ∧ (∃ rows, Holds raw rows) ∧
        ∀ {raw' : Json} {rows rows' : Json.Fields}, Holds raw rows → Holds raw' rows' →
          Reordered rows rows' → (rows.map Prod.fst).Nodup → ofJson raw' = .ok registry) ∧
    (∀ {rows rows' : List (String × Entry)}, rows.Perm rows' → (rows.map Prod.fst).Nodup →
      Registry.digest (Dict.ofList rows) = Registry.digest (Dict.ofList rows')) ∧
    ∀ (entry : Entry) {methods methods' : List String},
      (∀ method, method ∈ methods ↔ method ∈ methods') →
      { entry with allowedMethods := some (TextSet.ofList methods) } =
        { entry with allowedMethods := some (TextSet.ofList methods') } := by
  refine ⟨fun h h' => ?_, fun h => ?_, fun hperm hdistinct => ?_, fun entry _ _ hmem => ?_⟩
  · have hbytes := canonicalBytes_inj h h'
    refine ⟨hbytes, ?_⟩
    rw [digest_eq, digest_eq, Digest.hex_sha256_eq_iff, hbytes]
  · exact ⟨made_of_ofJson h, exists_holds h, fun hholds hholds' hreordered hdistinct =>
      ofJson_congr hholds hholds' hreordered hdistinct h⟩
  · rw [Dict.ofList_perm hperm hdistinct]
  · rw [TextSet.ofList_congr hmem]

/-- A document with methods in one text. -/
def framedGreeting : Json :=
  .obj [("schema", .int 1), ("functions", .obj [
    ("greet", .obj [("executionKind", .int 0), ("allowedCallerMethods", .str "GET,put")]),
    ("leave", .arr [.str "native"])])]

/-- The rows of the document without a frame and in another order. -/
def bareGreeting : Json :=
  .obj [("leave", .arr [.str "native"]),
    ("greet", .obj [("allowedCallerMethods", Json.texts ["put", "GET", "put"]),
      ("executionKind", .int 0)])]

/-- The registry that both spell. -/
def greeting : Registry :=
  Dict.ofList [("greet", { Entry.native with
    allowedMethods := some (TextSet.ofList ["GET", "put"]) }), ("leave", .native)]

/-- The same by hand, but with an empty list of methods for the one that had none. -/
def emptyListGreeting : Registry :=
  Dict.ofList [("greet", { Entry.native with
      allowedMethods := some (TextSet.ofList ["put", "GET"]) }),
    ("leave", { Entry.native with allowedMethods := some (TextSet.ofList []) })]

/-- No methods and an empty list of them are different revisions; a frame and another order
are not. -/
theorem greeting_revisions :
    greeting.canonicalBytes ≠ emptyListGreeting.canonicalBytes ∧
      ofJson framedGreeting = .ok greeting ∧ ofJson bareGreeting = .ok greeting := by
  have hread : ofJson framedGreeting = .ok greeting := rfl
  obtain ⟨hmade, -, hreordered⟩ := digest_identifies_revision.2.1 hread
  have hstrict : emptyListGreeting.Made := by
    rintro row (_ | ⟨_, _ | ⟨_, ⟨⟩⟩⟩)
    · exact .allowedMethods .native ["put", "GET"]
    · exact .allowedMethods .native []
  have hmethods : Entry.SameMethods (.str "GET,put") (Json.texts ["put", "GET", "put"]) := by
    refine ⟨["GET", "put"], _, .text "GET,put", .array _, fun method => ?_⟩
    simp only [List.mem_cons, List.not_mem_nil, or_false]
    tauto
  have hentry : Entry.Reordered
      (.obj [("executionKind", .int 0), ("allowedCallerMethods", .str "GET,put")])
      (.obj [("allowedCallerMethods", Json.texts ["put", "GET", "put"]),
        ("executionKind", .int 0)]) :=
    .trans (.fields (.swap _ _ _) (by decide)) (.methods hmethods [] _)
  refine ⟨fun h => ?_, hread, hreordered (.document rfl rfl rfl) (.bare rfl) ?_ (by decide)⟩
  · have hsame := (digest_identifies_revision.1 hmade hstrict).1.1 h
    exact absurd hsame (by decide)
  · exact .trans (.swap _ _ _) (.cons "leave" (.refl _) (.cons "greet" hentry .nil))

end Registry

end Switchboard
