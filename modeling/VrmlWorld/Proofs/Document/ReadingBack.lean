/-
  VrmlWorld/Proofs/Document/ReadingBack.lean
  ==========================================
  **Written values and fields are read back.**

  Every reader takes all of a written value and no token more, whatever the
  value of its field was before. Only a choice of flags looks further ahead, so
  what stands behind a value must not go on choosing (`Quiet`). A body of fields
  is then read entry after entry, each a change of the values of the node.
-/
import VrmlWorld.Proofs.Document.Reading
import VrmlWorld.Proofs.Document.Writing

namespace VrmlWorld.Document

open VrmlWorld.Geometry

/-! ### Single values -/

section Singles

variable {α : Type} {tokens : List Token}

theorem written_numbers_nil (written : (Atom.numbers []).Written tokens) : tokens = [] := by
  cases written with
  | numbers rounded =>
    rw [List.map_eq_nil_iff.1 rounded]
    rfl

theorem written_numbers_cons {x : Float32} {others : List Float32}
    (written : (Atom.numbers (x :: others)).Written tokens) :
    ∃ (value : Float) (more : List Token), tokens = .number value :: more ∧
      value.toFloat32 = x ∧ (Atom.numbers others).Written more := by
  cases written with
  | @numbers _ values rounded =>
    obtain ⟨value, more, rfl, rfl, rest⟩ := List.map_eq_cons_iff.1 rounded
    exact ⟨value, more.map .number, rfl, rfl, .numbers rest⟩

theorem written_word {word : String} (written : (Atom.words [word]).Written tokens) :
    tokens = [.word word] := by
  cases written
  rfl

/-- A kind of value takes a single value from each of its writings. -/
def Single.Takes (single : Single α) (atom : Atom) (value : α) : Prop :=
  ∀ tokens, atom.Written tokens → ∃ first behind, tokens = first :: behind ∧
    first ≠ .openBracket ∧ first ≠ .closeBracket ∧
    ∀ rest, single.read? first (behind ++ rest) = some (value, rest)

namespace Single

theorem take_written {single : Single α} {atom : Atom} {value : α}
    (takes : single.Takes atom value) (written : atom.Written tokens) (rest : List Token) :
    single.take (tokens ++ rest) = (value, rest) := by
  obtain ⟨first, behind, rfl, -, -, read⟩ := takes tokens written
  simp [take, read rest]

theorem float_takes (x : Float32) : float.Takes (.numbers [x]) x := by
  intro tokens written
  obtain ⟨value, more, rfl, rfl, last⟩ := written_numbers_cons written
  rw [written_numbers_nil last]
  exact ⟨_, _, rfl, nofun, nofun, fun rest => rfl⟩

theorem vec2_takes (v : Vec2) : vec2.Takes (.numbers v.toList) v := by
  intro tokens written
  obtain ⟨x, more, rfl, atX, written⟩ := written_numbers_cons written
  obtain ⟨y, more, rfl, atY, last⟩ := written_numbers_cons written
  rw [written_numbers_nil last]
  refine ⟨_, _, rfl, nofun, nofun, fun rest => ?_⟩
  cases v
  cases atX
  cases atY
  rfl

theorem vec3_takes (v : Vec3) : vec3.Takes (.numbers v.toList) v := by
  intro tokens written
  obtain ⟨x, more, rfl, atX, written⟩ := written_numbers_cons written
  obtain ⟨y, more, rfl, atY, written⟩ := written_numbers_cons written
  obtain ⟨z, more, rfl, atZ, last⟩ := written_numbers_cons written
  rw [written_numbers_nil last]
  refine ⟨_, _, rfl, nofun, nofun, fun rest => ?_⟩
  cases v
  cases atX
  cases atY
  cases atZ
  rfl

theorem vec4_takes (v : Vec4) : vec4.Takes (.numbers v.toList) v := by
  intro tokens written
  obtain ⟨x, more, rfl, atX, written⟩ := written_numbers_cons written
  obtain ⟨y, more, rfl, atY, written⟩ := written_numbers_cons written
  obtain ⟨z, more, rfl, atZ, written⟩ := written_numbers_cons written
  obtain ⟨w, more, rfl, atW, last⟩ := written_numbers_cons written
  rw [written_numbers_nil last]
  refine ⟨_, _, rfl, nofun, nofun, fun rest => ?_⟩
  cases v
  cases atX
  cases atY
  cases atZ
  cases atW
  rfl

theorem whole_takes (value : Int) : whole.Takes (.whole value) value := by
  intro tokens written
  cases written with
  | whole cut =>
    cases cut
    exact ⟨_, _, rfl, nofun, nofun, fun rest => rfl⟩

theorem text_takes (value : String) : text.Takes (.text value) value := by
  intro tokens written
  cases written
  exact ⟨_, _, rfl, nofun, nofun, fun rest => rfl⟩

theorem truth_takes (value : Bool) : truth.Takes (.words [truthWord value]) value := by
  intro tokens written
  rw [written_word written]
  refine ⟨_, _, rfl, nofun, nofun, fun rest => ?_⟩
  cases value <;> rfl

theorem keyword_takes {substitute value : α} {meaning : List (String × α)} {word : String}
    (means : (meaning.lookup word).getD substitute = value) :
    (keyword substitute meaning).Takes (.words [word]) value := by
  intro tokens written
  rw [written_word written]
  refine ⟨_, _, rfl, nofun, nofun, fun rest => ?_⟩
  cases means
  rfl

end Single

/-! ### Lists -/

/-- The members of a written list are read up to its closing bracket. -/
theorem readMembers_written {single : Single α} {write : α → Atom}
    (takes : ∀ value, single.Takes (write value) value) (values found : List α)
    {parts : List (List Token)}
    (written : List.Forall₂ Atom.Written (values.map write) parts) (rest : List Token) :
    readMembers single found (parts.flatten ++ .closeBracket :: rest) =
      (found.reverse ++ values, rest) := by
  induction values generalizing found parts with
  | nil =>
    cases written
    simp [readMembers]
  | cons value values ih =>
    cases written with
    | @cons _ part _ parts first others =>
      obtain ⟨token, behind, rfl, -, noClose, read⟩ := takes value part first
      rw [List.flatten_cons, List.append_assoc, List.cons_append,
        readMembers_value noClose (read _), ih _ others]
      simp

theorem readList_written {single : Single α} {write : α → Atom}
    (takes : ∀ value, single.Takes (write value) value) (values : List α)
    (written : (Datum.many (values.map write)).Written tokens) (rest : List Token) :
    readList single (tokens ++ rest) = (values, rest) := by
  generalize atoms : values.map write = list at written
  cases written with
  | brackets own =>
    subst atoms
    simpa [readList] using readMembers_written takes values [] own rest
  | @bare atom tokens own =>
    obtain ⟨value, others, rfl, rfl, none⟩ := List.map_eq_cons_iff.1 atoms
    obtain rfl := List.map_eq_nil_iff.1 none
    have taken := Single.take_written (takes value) own rest
    obtain ⟨first, behind, rfl, noOpen, -, -⟩ := takes value tokens own
    rw [List.cons_append, readList.eq_2 _ _ (by simpa using noOpen)]
    simp only [List.cons_append] at taken
    simp [taken]

end Singles

/-! ### Values of other shapes -/

/-- A written sequence of numbers is read number after number. -/
theorem readFloats_written {values found : List Float32} {tokens : List Token}
    (written : (Atom.numbers values).Written tokens) (rest : List Token) :
    readFloats values.length found (tokens ++ rest) = (found.reverse ++ values, rest) := by
  induction values generalizing found tokens with
  | nil =>
    rw [written_numbers_nil written]
    simp [readFloats]
  | cons x values ih =>
    obtain ⟨value, more, rfl, rfl, others⟩ := written_numbers_cons written
    have first : Single.float.take (.number value :: (more ++ rest)) =
        (value.toFloat32, more ++ rest) := rfl
    rw [List.length_cons, readFloats, List.cons_append, first, ih others]
    simp

/-- Whether the tokens behind a value do not go on choosing parts of a shape. -/
def Quiet (rest : List Token) : Prop :=
  ∀ word, rest.head? = some (.word word) → word ∉ ["SIDES", "TOP", "BOTTOM", "ALL"]

/-- A written choice of flags is read up to the first word that is none. Whatever
    a union keeps of its two sides, the answer has of the flags found before and
    of those written. -/
theorem readFlags_words {α : Type} {meaning : List (String × α)} (union : α → α → α)
    {words : List String} {rest : List Token}
    (known : ∀ word ∈ words, ∃ flag, meaning.lookup word = some flag)
    (stops : ∀ word, rest.head? = some (.word word) → meaning.lookup word = none)
    (found : Option α) :
    ∃ flags, readFlags meaning union found (words.map .word ++ rest) = (flags, rest) ∧
      (found.isSome = true ∨ words ≠ [] → flags.isSome = true) ∧
      ∀ part : α → Bool, (∀ a b, part (union a b) = (part a || part b)) →
        (flags.any part = true ↔ found.any part = true ∨
          ∃ word ∈ words, (meaning.lookup word).any part = true) := by
  induction words generalizing found with
  | nil =>
    refine ⟨found, ?_, by simp, by simp⟩
    cases rest with
    | nil => simp [readFlags]
    | cons token rest =>
      cases token with
      | word name => simp [readFlags, stops name rfl]
      | _ => simp [readFlags]
  | cons word words ih =>
    obtain ⟨flag, means⟩ := known word List.mem_cons_self
    obtain ⟨flags, read, some, parts⟩ :=
      ih (fun other member => known other (List.mem_cons_of_mem word member))
        (some (found.elim flag fun flags => union flags flag))
    refine ⟨flags, ?_, fun _ => some (.inl rfl), ?_⟩
    · rw [List.map_cons, List.cons_append, readFlags, means]
      exact read
    · intro part splits
      rw [parts part splits]
      cases found with
      | none => simp [means]
      | some before => simp [means, splits, or_assoc]

/-! ### Readers of fields -/

/-- A reader takes a value from each of its writings. -/
def ValueReader.ReadsBack {α : Type} (reader : ValueReader α) (datum : Datum) (value : α) : Prop :=
  ∀ tokens, datum.Written tokens → ∀ current rest, Quiet rest →
    reader.run current (tokens ++ rest) = (value, rest)

section Readers

variable {α : Type} {single : Single α}

theorem Single.Takes.readsBack {atom : Atom} {value : α} (takes : single.Takes atom value) :
    single.reader.ReadsBack (.one atom) value := by
  intro tokens written current rest _
  cases written with
  | one own => exact Single.take_written takes own rest

theorem Single.list_readsBack {write : α → Atom} (takes : ∀ value, single.Takes (write value) value)
    (values : List α) : single.list.ReadsBack (.many (values.map write)) values := by
  intro tokens written current rest _
  exact readList_written takes values written rest

theorem Single.array_readsBack {write : α → Atom}
    (takes : ∀ value, single.Takes (write value) value) (values : Array α) :
    single.array.ReadsBack (.many (values.toList.map write)) values := by
  intro tokens written current rest _
  simp [Single.array, readList_written takes values.toList written rest]

theorem matrix_readsBack (value : Mat4) :
    matrix.ReadsBack (.one (.numbers value.toList)) value := by
  intro tokens written current rest _
  cases written with
  | one own =>
    have read : readFloats 16 [] (tokens ++ rest) = (value.toList, rest) :=
      readFloats_written own rest
    simp only [matrix, read]
    rfl

/-- A choice of flags is read back if it is told by the parts that it has. -/
theorem flags_readsBack {meaning : List (String × α)} {union : α → α → α} {words : List String}
    {value : α} (nonempty : words ≠ [])
    (known : ∀ word ∈ words, ∃ flag, meaning.lookup word = some flag)
    (loud : ∀ entry ∈ meaning, entry.1 ∈ ["SIDES", "TOP", "BOTTOM", "ALL"])
    (told : ∀ flags, (∀ part : α → Bool, (∀ a b, part (union a b) = (part a || part b)) →
      (part flags = true ↔ ∃ word ∈ words, (meaning.lookup word).any part = true)) →
      flags = value) :
    (flags meaning union).ReadsBack (.one (.words words)) value := by
  intro tokens written current rest quiet
  cases written with
  | one own =>
    cases own
    have stops : ∀ word, rest.head? = some (.word word) → meaning.lookup word = none := by
      intro word next
      rw [List.lookup_eq_none_iff]
      intro entry member
      rw [bne_iff_ne]
      rintro rfl
      exact quiet _ next (loud entry member)
    obtain ⟨chosen, read, some, parts⟩ :=
      readFlags_words union known stops none
    obtain ⟨flags, rfl⟩ := Option.isSome_iff_exists.1 (some (.inr nonempty))
    have same : flags = value := told flags fun part splits => by simpa using parts part splits
    simp [Document.flags, read, same]

end Readers

/-- Which of the known words choose a part. -/
theorem exists_choosing_iff (choosing : List String) {names words : List String}
    {chooses : String → Bool}
    (known : ∀ word ∈ words, word ∈ names)
    (exact : ∀ word ∈ names, chooses word = true ↔ word ∈ choosing) :
    (∃ word ∈ words, chooses word = true) ↔ ∃ word ∈ choosing, word ∈ words ∧ word ∈ names := by
  constructor
  · rintro ⟨word, member, chosen⟩
    exact ⟨word, (exact word (known word member)).1 chosen, member, known word member⟩
  · rintro ⟨word, choosing, member, name⟩
    exact ⟨word, member, (exact word name).2 choosing⟩

def coneMeaning : List (String × ConeParts) :=
  [("SIDES", ⟨true, false⟩), ("BOTTOM", ⟨false, true⟩), ("ALL", .all)]

theorem coneParts_readsBack {parts : ConeParts} {words : List String}
    (chosen : ConeWords parts words) :
    (flags coneMeaning ConeParts.union).ReadsBack (.one (.words words)) parts := by
  have meant : ∀ word ∈ ["SIDES", "BOTTOM", "ALL"], (coneMeaning.lookup word).isSome = true := by
    decide
  refine flags_readsBack chosen.nonempty
    (fun word member => Option.isSome_iff_exists.1 (meant word (chosen.known word member)))
    (by decide) ?_
  intro flags told
  have sides : flags.sides = true ↔ parts.sides = true := by
    rw [told ConeParts.sides fun _ _ => rfl, chosen.sides,
      exists_choosing_iff ["SIDES", "ALL"] chosen.known (by decide)]
    simp
  have bottom : flags.bottom = true ↔ parts.bottom = true := by
    rw [told ConeParts.bottom fun _ _ => rfl, chosen.bottom,
      exists_choosing_iff ["BOTTOM", "ALL"] chosen.known (by decide)]
    simp
  cases flags
  cases parts
  rw [ConeParts.mk.injEq]
  exact ⟨Bool.eq_iff_iff.2 sides, Bool.eq_iff_iff.2 bottom⟩

def cylinderMeaning : List (String × CylinderParts) :=
  [("SIDES", ⟨true, false, false⟩), ("TOP", ⟨false, true, false⟩),
    ("BOTTOM", ⟨false, false, true⟩), ("ALL", .all)]

theorem cylinderParts_readsBack {parts : CylinderParts} {words : List String}
    (chosen : CylinderWords parts words) :
    (flags cylinderMeaning CylinderParts.union).ReadsBack (.one (.words words)) parts := by
  have meant : ∀ word ∈ ["SIDES", "TOP", "BOTTOM", "ALL"],
      (cylinderMeaning.lookup word).isSome = true := by
    decide
  refine flags_readsBack chosen.nonempty
    (fun word member => Option.isSome_iff_exists.1 (meant word (chosen.known word member)))
    (by decide) ?_
  intro flags told
  have sides : flags.sides = true ↔ parts.sides = true := by
    rw [told CylinderParts.sides fun _ _ => rfl, chosen.sides,
      exists_choosing_iff ["SIDES", "ALL"] chosen.known (by decide)]
    simp
  have top : flags.top = true ↔ parts.top = true := by
    rw [told CylinderParts.top fun _ _ => rfl, chosen.top,
      exists_choosing_iff ["TOP", "ALL"] chosen.known (by decide)]
    simp
  have bottom : flags.bottom = true ↔ parts.bottom = true := by
    rw [told CylinderParts.bottom fun _ _ => rfl, chosen.bottom,
      exists_choosing_iff ["BOTTOM", "ALL"] chosen.known (by decide)]
    simp
  cases flags
  cases parts
  rw [CylinderParts.mk.injEq]
  exact ⟨Bool.eq_iff_iff.2 sides, Bool.eq_iff_iff.2 top, Bool.eq_iff_iff.2 bottom⟩

/-! ### Bodies -/

section Bodies

variable {σ : Type} {fields : List (Field σ)} {entry : Entry} {entries : List Entry}
  {updates : List (σ → σ)} {parts : List (List Token)}

/-- By a table of fields, an entry is read as a change of the values. -/
structure Reads (fields : List (Field σ)) (entry : Entry) (update : σ → σ) : Prop where
  quiet : entry.name ∉ ["SIDES", "TOP", "BOTTOM", "ALL"]
  known : ∃ field value, fieldOf? fields (.word entry.name) = some field ∧
    field.reader.ReadsBack entry.datum value ∧ update = field.set value

theorem Reads.of_field {name : String} {datum : Datum} {field : Field σ} {value : field.Value}
    (named : fieldOf? fields (.word name) = some field) (back : field.reader.ReadsBack datum value)
    (quiet : name ∉ ["SIDES", "TOP", "BOTTOM", "ALL"] := by decide) :
    Reads fields ⟨name, datum⟩ (field.set value) :=
  ⟨quiet, field, value, named, back, rfl⟩

theorem Reads.field_read {update : σ → σ} (reads : Reads fields entry update) {tokens : List Token}
    (written : entry.Written tokens) :
    ∃ field behind, tokens = .word entry.name :: behind ∧
      fieldOf? fields (.word entry.name) = some field ∧
      ∀ values rest, Quiet rest → field.read values (behind ++ rest) = (update values, rest) := by
  obtain ⟨-, field, value, named, back, rfl⟩ := reads
  cases written with
  | @mk behind own =>
    refine ⟨field, behind, rfl, named, fun values rest quiet => ?_⟩
    simp [Field.read, back behind own (field.get values) rest quiet]

theorem quiet_close (rest : List Token) : Quiet (.closeBrace :: rest) := nofun

/-- What is quiet behind some fields is quiet with them before it. -/
theorem quiet_fields (reads : List.Forall₂ (Reads fields) entries updates)
    (written : List.Forall₂ Entry.Written entries parts) {rest : List Token} (quiet : Quiet rest) :
    Quiet (parts.flatten ++ rest) := by
  cases reads with
  | nil =>
    cases written
    exact quiet
  | cons first others =>
    cases written with
    | cons own more =>
      cases own
      rintro word ⟨⟩
      exact first.quiet

abbrev settled (updates : List (σ → σ)) (values : σ) : σ :=
  updates.foldl (fun values update => update values) values

theorem readFields_written (reads : List.Forall₂ (Reads fields) entries updates)
    (written : List.Forall₂ Entry.Written entries parts) (values : σ) (rest : List Token) :
    readFields fields values (parts.flatten ++ .closeBrace :: rest) =
      (settled updates values, rest) := by
  induction reads generalizing values parts with
  | nil =>
    cases written
    simp [readFields]
  | cons first others ih =>
    cases written with
    | @cons _ part _ parts own more =>
      obtain ⟨field, behind, rfl, named, read⟩ := first.field_read own
      have quiet := quiet_fields others more (quiet_close rest)
      rw [List.flatten_cons, List.append_assoc, List.cons_append, readFields]
      simp only [named, read values _ quiet]
      exact ih more _

/-- So are written fields that children stand behind. -/
theorem bodyAt_written (reads : List.Forall₂ (Reads fields) entries updates)
    (written : List.Forall₂ Entry.Written entries parts) (values : σ) (found : List Form)
    {rest : List Token} (quiet : Quiet rest) :
    bodyAt fields values found (parts.flatten ++ rest) =
      bodyAt fields (settled updates values) found rest := by
  induction reads generalizing values parts with
  | nil =>
    cases written
    rfl
  | cons first others ih =>
    cases written with
    | @cons _ part _ parts own more =>
      obtain ⟨field, behind, rfl, named, read⟩ := first.field_read own
      have quiet := quiet_fields others more quiet
      rw [List.flatten_cons, List.append_assoc, List.cons_append, bodyAt_field named,
        read values _ quiet]
      exact ih more _

end Bodies

end VrmlWorld.Document
