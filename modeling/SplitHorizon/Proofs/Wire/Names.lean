/-
Written names read back.

What makes compression sound is an invariant on the endings that the writer
remembers: each stands before the name to be written next, at a place that a
pointer can name, and is read there as the labels it is remembered for.  A name
that is being written meets only such older endings, since the endings of its own
that are remembered meanwhile are longer than what is left of it.
-/
import SplitHorizon.Proofs.Wire.Reading
import SplitHorizon.Wire.NameReader
import SplitHorizon.Wire.NameWriter

namespace SplitHorizon
namespace Wire

variable {message : List UInt8} {known : Endings} {pos first : Nat}

/-! ## Steps of the reader -/

/-- The labels are read at a place if they have to end before `limit`. -/
def Readable (message : List UInt8) (labels : List Label) (pos limit : Nat) : Prop :=
  ∃ here, readLabels message pos limit (Cursor.within message pos) = some (labels, here)

section

variable {start limit : Nat}

/-- What the reader does with a byte before the limit. -/
theorem readLabels_cons (hpos : pos < limit) (b : UInt8) (tail : List UInt8) :
    readLabels message start limit { pos := pos, rest := b :: tail } =
      if b = 0 then some ([], { pos := pos + 1, rest := tail })
      else if b < 64 then
        match Label.ofBytes? (tail.take b.toNat) with
        | none => none
        | some label =>
          if label.bytes.length = b.toNat then
            (readLabels message start limit
              { pos := pos + label.size, rest := tail.drop b.toNat }).map
                fun read => (label :: read.1, read.2)
          else none
      else if b < 192 then none
      else
        match tail with
        | [] => none
        | low :: rest =>
          if pointerTarget b low < start then
            (readLabels message (pointerTarget b low) start
              (Cursor.within message (pointerTarget b low))).map
                fun read => (read.1, { pos := pos + 2, rest := rest })
          else none := by
  have hmap : ∀ (read : Option (List Label × Cursor))
      (f : List Label × Cursor → List Label × Cursor),
      read.map f = read.bind fun p => some (f p) := by
    intro read f
    cases read with
    | none => rfl
    | some p => rfl
  rw [readLabels, if_neg (Nat.not_le.2 hpos)]
  simp only [hmap]
  cases tail with
  | nil => rfl
  | cons low rest => rfl

theorem Cursor.within_of_standsAt {b : UInt8} {bytes : List UInt8}
    (hstands : StandsAt message pos (b :: bytes)) :
    Cursor.within message pos = { pos := pos, rest := b :: message.drop (pos + 1) } := by
  rw [Cursor.within, hstands.drop_eq]

theorem readLabels_zero (hpos : pos < limit) (hstands : StandsAt message pos [0]) :
    readLabels message start limit (Cursor.within message pos) =
      some ([], Cursor.within message (pos + 1)) := by
  rw [Cursor.within_of_standsAt hstands, readLabels_cons hpos, if_pos rfl]
  rfl

theorem readLabels_spelled {label : Label} (hpos : pos < limit)
    (hstands : StandsAt message pos label.spelled) :
    readLabels message start limit (Cursor.within message pos) =
      (readLabels message start limit (Cursor.within message (pos + label.size))).map
        fun read => (label :: read.1, read.2) := by
  have hne : 0 < label.bytes.length := List.length_pos_iff.2 label.bytes_ne_nil
  have hle : label.bytes.length ≤ 63 := label.length_le
  have hcount : (UInt8.ofNat label.bytes.length).toNat = label.bytes.length := by
    rw [UInt8.toNat_ofNat']
    omega
  have hzero : UInt8.ofNat label.bytes.length ≠ 0 := by
    rw [Ne, ← UInt8.toNat_inj, hcount]
    exact Nat.pos_iff_ne_zero.1 hne
  have hshort : UInt8.ofNat label.bytes.length < 64 := by
    rw [UInt8.lt_iff_toNat_lt, hcount]
    exact Nat.lt_succ_of_le hle
  have htake : (message.drop (pos + 1)).take label.bytes.length = label.bytes :=
    (List.prefix_iff_eq_take.1 (StandsAt.tail hstands)).symm
  have hlabel : Label.ofBytes? label.bytes = some label := by
    rw [Label.ofBytes?, dif_pos ⟨label.bytes_ne_nil, label.length_le⟩]
  have hrest : (message.drop (pos + 1)).drop label.bytes.length =
      message.drop (pos + label.size) := by
    rw [List.drop_drop, Label.size, Nat.add_assoc, Nat.add_comm 1]
  rw [Cursor.within_of_standsAt hstands, readLabels_cons hpos, if_neg hzero, if_pos hshort]
  simp only [hcount, htake, hlabel, if_true, hrest]
  rfl

theorem pointerTarget_pointerBytes {target : Nat} (htarget : target < 0x4000) :
    pointerTarget (UInt8.ofNat (192 + target / 256)) (UInt8.ofNat target) = target := by
  simp only [pointerTarget, UInt8.toNat_ofNat']
  omega

theorem readLabels_pointer {labels : List Label} {target : Nat} (hpos : pos < limit)
    (hstands : StandsAt message pos (pointerBytes target)) (hstart : target < start)
    (htarget : target < 0x4000) (hread : Readable message labels target start) :
    readLabels message start limit (Cursor.within message pos) =
      some (labels, Cursor.within message (pos + 2)) := by
  have hhigh : (UInt8.ofNat (192 + target / 256)).toNat = 192 + target / 256 := by
    rw [UInt8.toNat_ofNat']
    omega
  have hzero : UInt8.ofNat (192 + target / 256) ≠ 0 := by
    rw [Ne, ← UInt8.toNat_inj, hhigh]
    exact Nat.ne_of_gt (Nat.lt_of_lt_of_le (by decide) (Nat.le_add_right 192 _))
  have hlong : ¬ UInt8.ofNat (192 + target / 256) < 64 := by
    rw [UInt8.lt_iff_toNat_lt, hhigh]
    exact Nat.not_lt.2 (Nat.le_trans (by decide) (Nat.le_add_right 192 _))
  have hpointer : ¬ UInt8.ofNat (192 + target / 256) < 192 := by
    rw [UInt8.lt_iff_toNat_lt, hhigh]
    exact Nat.not_lt.2 (Nat.le_add_right 192 _)
  rw [Cursor.within_of_standsAt hstands, readLabels_cons hpos, if_neg hzero, if_neg hlong,
    if_neg hpointer, (StandsAt.tail hstands).drop_eq]
  simp only [pointerTarget_pointerBytes htarget]
  obtain ⟨here, hread⟩ := hread
  rw [if_pos hstart, hread]
  rfl

end

/-! ## Remembered endings -/

/-- The ending stands before `first`, at a place that a pointer can name, and is
read there by whoever may end at `first` or later. -/
def Legible (message : List UInt8) (first : Nat) (ending : List Label × Nat) : Prop :=
  ending.2 < first ∧ ending.2 < 0x4000 ∧
    ∀ limit, first ≤ limit → Readable message ending.1 ending.2 limit

theorem Legible.mono {later : Nat} {ending : List Label × Nat} (hle : first ≤ later)
    (h : Legible message first ending) : Legible message later ending :=
  ⟨Nat.lt_of_lt_of_le h.1 hle, h.2.1, fun limit hlimit => h.2.2 limit (Nat.le_trans hle hlimit)⟩

section

variable {keep : Bool} {label : Label} {labels rest : List Label}

theorem writeLabels_of_known {target : Nat}
    (h : List.lookup (label :: rest) known = some target) :
    writeLabels keep known pos (label :: rest) =
      { bytes := pointerBytes target, known := known } := by
  rw [writeLabels, h]

theorem writeLabels_of_new (h : List.lookup (label :: rest) known = none) :
    writeLabels keep known pos (label :: rest) =
      let later := if keep then known ++ [(label :: rest, pos)] else known
      let tail := writeLabels keep later (pos + label.size) rest
      { bytes := label.spelled ++ tail.bytes, known := tail.known } := by
  rw [writeLabels, h]

theorem mem_of_lookup {target : Nat} (h : List.lookup labels known = some target) :
    (labels, target) ∈ known := by
  obtain ⟨front, back, rfl, -⟩ := List.lookup_eq_some_iff.1 h
  exact List.mem_append_right front List.mem_cons_self

/-- Of the endings known after a label, the one that starts with it is longer than
what follows it. -/
theorem mem_of_length_le {ending : List Label × Nat}
    (hmem : ending ∈ if keep then known ++ [(label :: rest, pos)] else known)
    (hlength : ending.1.length ≤ rest.length) : ending ∈ known := by
  split at hmem
  · rcases List.mem_append.1 hmem with hmem | hlast
    · exact hmem
    · obtain rfl := List.mem_singleton.1 hlast
      exact absurd hlength (Nat.not_succ_le_self rest.length)
  · exact hmem

/-- What is written for labels is read back, if it ends before the limit. -/
theorem readLabels_writeLabels {start limit : Nat} (hstart : first ≤ start)
    (hknown : ∀ ending ∈ known, ending.1.length ≤ labels.length → Legible message first ending)
    (hstands : StandsAt message pos (writeLabels keep known pos labels).bytes)
    (hlimit : pos + (writeLabels keep known pos labels).bytes.length ≤ limit) :
    readLabels message start limit (Cursor.within message pos) =
      some (labels,
        Cursor.within message (pos + (writeLabels keep known pos labels).bytes.length)) := by
  induction labels generalizing known pos with
  | nil => exact readLabels_zero (Nat.lt_of_succ_le hlimit) hstands
  | cons label rest ih =>
    cases hlookup : List.lookup (label :: rest) known with
    | some target =>
      rw [writeLabels_of_known hlookup] at hstands hlimit ⊢
      obtain ⟨hbefore, hlow, hread⟩ := hknown _ (mem_of_lookup hlookup) (Nat.le_refl _)
      have hpos : pos < limit := Nat.lt_of_lt_of_le (Nat.lt_add_of_pos_right Nat.two_pos) hlimit
      exact readLabels_pointer hpos hstands (Nat.lt_of_lt_of_le hbefore hstart) hlow
        (hread start hstart)
    | none =>
      rw [writeLabels_of_new hlookup] at hstands hlimit ⊢
      simp only [List.length_append, Label.length_spelled, ← Nat.add_assoc] at hlimit ⊢
      have hpos : pos < limit := by
        have hsize : 0 < label.size := label.size_pos
        omega
      have htail := StandsAt.right hstands
      rw [Label.length_spelled] at htail
      rw [readLabels_spelled hpos (StandsAt.left hstands), ih _ htail hlimit]
      · rfl
      · intro ending hmem hlength
        exact hknown ending (mem_of_length_le hmem hlength)
          (Nat.le_trans hlength (Nat.le_succ rest.length))

/-- An ending that is known after a name was known before it or is one of its own. -/
theorem legible_of_mem_writeLabels {ending : List Label × Nat}
    (hkeep : keep = true → pos + labelsSize labels < 0x4000) (hfirst : first ≤ pos)
    (hknown : ∀ ending ∈ known, ending.1.length ≤ labels.length → Legible message first ending)
    (hstands : StandsAt message pos (writeLabels keep known pos labels).bytes)
    (hmem : ending ∈ (writeLabels keep known pos labels).known) :
    ending ∈ known ∨
      Legible message (pos + (writeLabels keep known pos labels).bytes.length) ending := by
  induction labels generalizing known pos with
  | nil => exact Or.inl hmem
  | cons label rest ih =>
    cases hlookup : List.lookup (label :: rest) known with
    | some target =>
      rw [writeLabels_of_known hlookup] at hmem
      exact Or.inl hmem
    | none =>
      have hread : ∀ limit,
          pos + (writeLabels keep known pos (label :: rest)).bytes.length ≤ limit →
            Readable message (label :: rest) pos limit := fun limit hlimit =>
        ⟨_, readLabels_writeLabels hfirst hknown hstands hlimit⟩
      rw [writeLabels_of_new hlookup] at hstands hmem hread ⊢
      simp only [List.length_append, Label.length_spelled, ← Nat.add_assoc] at hread ⊢
      have htail := StandsAt.right hstands
      rw [Label.length_spelled] at htail
      have hsize : 0 < label.size := label.size_pos
      have hroom : keep = true → pos + label.size + labelsSize rest < 0x4000 := by
        intro h
        rw [Nat.add_assoc]
        exact hkeep h
      have hshort : ∀ ending ∈ (if keep then known ++ [(label :: rest, pos)] else known),
          ending.1.length ≤ rest.length → Legible message first ending := by
        intro ending hmem hlength
        exact hknown ending (mem_of_length_le hmem hlength)
          (Nat.le_trans hlength (Nat.le_succ rest.length))
      rcases ih hroom (by omega) hshort htail hmem with hlater | hlegible
      · split at hlater
        · next hkept =>
          rcases List.mem_append.1 hlater with hbefore | hown
          · exact Or.inl hbefore
          · obtain rfl := List.mem_singleton.1 hown
            have hlow : pos + label.size + labelsSize rest < 0x4000 := hroom hkept
            exact Or.inr ⟨by omega, by omega, hread⟩
        · exact Or.inl hlater
      · exact Or.inr hlegible

end

/-! ## Names -/

theorem writeLabels_bytes_ne_nil {keep : Bool} {labels : List Label} :
    (writeLabels keep known pos labels).bytes ≠ [] := by
  cases labels with
  | nil => exact List.cons_ne_nil 0 []
  | cons label rest =>
    cases hlookup : List.lookup (label :: rest) known with
    | some target =>
      rw [writeLabels_of_known hlookup]
      exact List.cons_ne_nil _ _
    | none =>
      rw [writeLabels_of_new hlookup]
      exact List.cons_ne_nil _ _

theorem length_writeLabels_le {keep : Bool} {labels : List Label} :
    (writeLabels keep known pos labels).bytes.length ≤ labelsSize labels + 1 := by
  induction labels generalizing known pos with
  | nil => exact Nat.le_refl 1
  | cons label rest ih =>
    rw [labelsSize_cons]
    cases hlookup : List.lookup (label :: rest) known with
    | some target =>
      rw [writeLabels_of_known hlookup]
      have hsize : 0 < label.size := label.size_pos
      change 2 ≤ _
      omega
    | none =>
      rw [writeLabels_of_new hlookup]
      simp only [List.length_append, Label.length_spelled, Nat.add_assoc]
      exact Nat.add_le_add_left ih label.size

theorem writeName_eq_some {name : Name} {written : Written}
    (h : writeName known pos name = some written) :
    written = writeLabels (pos + labelsSize name.labels < endingsLimit) known pos name.labels ∧
      pos + written.bytes.length ≤ maxMessageSize := by
  unfold writeName at h
  simp only at h
  split at h
  · next hfits =>
    obtain rfl := Option.some.inj h
    exact ⟨rfl, hfits.2⟩
  · cases h

/-- The bytes of a name that is spelled out. -/
def Name.size (name : Name) : Nat := labelsSize name.labels + 1

theorem Name.size_le_max (name : Name) : name.size ≤ maxNameSize := name.size_le

theorem length_le_of_writeName {name : Name} {written : Written}
    (h : writeName known pos name = some written) : written.bytes.length ≤ name.size := by
  obtain ⟨rfl, -⟩ := writeName_eq_some h
  exact length_writeLabels_le

theorem readName_writeLabels {keep : Bool} {name : Name}
    (hknown : ∀ ending ∈ known, Legible message pos ending)
    (hstands : StandsAt message pos (writeLabels keep known pos name.labels).bytes) :
    Reads message (readName message) pos name
      (pos + (writeLabels keep known pos name.labels).bytes.length) := by
  have hlimit := StandsAt.add_length_le hstands writeLabels_bytes_ne_nil
  have hread := readLabels_writeLabels (Nat.le_refl pos) (fun ending hmem _ => hknown ending hmem)
    hstands hlimit
  have hname : Name.ofLabels? name.labels = some name := by
    rw [Name.ofLabels?, dif_pos name.size_le]
  unfold Reads readName
  rw [show (Cursor.within message pos).pos = pos from rfl, hread]
  simp only [Option.bind_eq_bind, Option.bind_some, hname]
  rfl

/-- A written name is read back, and the endings that are known after it are good
for the next name. -/
theorem readName_writeName {name : Name} {written : Written}
    (hknown : ∀ ending ∈ known, Legible message pos ending)
    (hwrite : writeName known pos name = some written)
    (hstands : StandsAt message pos written.bytes) :
    Reads message (readName message) pos name (pos + written.bytes.length) ∧
      ∀ ending ∈ written.known, Legible message (pos + written.bytes.length) ending := by
  obtain ⟨rfl, -⟩ := writeName_eq_some hwrite
  refine ⟨readName_writeLabels hknown hstands, fun ending hmem => ?_⟩
  have hkeep : decide (pos + labelsSize name.labels < endingsLimit) = true →
      pos + labelsSize name.labels < 0x4000 := fun h =>
    Nat.lt_trans (of_decide_eq_true h) (by decide)
  rcases legible_of_mem_writeLabels hkeep (Nat.le_refl pos)
    (fun ending hmem _ => hknown ending hmem) hstands hmem with hbefore | hlegible
  · exact (hknown ending hbefore).mono (Nat.le_add_right pos _)
  · exact hlegible

/-- A name is refused only where it had no room if it were spelled out. -/
theorem room_of_writeName_eq_none {name : Name} (h : writeName known pos name = none) :
    maxMessageSize < pos + name.size := by
  unfold writeName at h
  simp only at h
  split at h
  · cases h
  · next hfull =>
    have hlength : (writeLabels (pos + labelsSize name.labels < endingsLimit) known pos
        name.labels).bytes.length ≤ labelsSize name.labels + 1 := length_writeLabels_le
    simp only [Name.size]
    omega

end Wire
end SplitHorizon
