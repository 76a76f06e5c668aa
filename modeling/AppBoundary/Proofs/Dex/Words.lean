-- Words are enough to read compiled code. Every number that the reader makes is
-- a word, because a field of the file has 32 bits and the reader only ever adds
-- up and multiplies a few of them. So a machine reads what the reader reads.
import AppBoundary.Proofs.Dex.Machine
import AppBoundary.Proofs.Dex.Owners

namespace AppBoundary

open DexLayout

/-! ## Bounds -/

/-- All that the reader makes of the fields of a file stays far below the bound of the words. -/
theorem lt_wordCount {n : Nat} (h : n < 0x8000000000000000) : n < wordCount :=
  Nat.lt_trans h (by decide)

namespace DexImage

variable {image : DexImage} {offset n value length : Nat}

theorem u16At_inside (h : offset + 2 ≤ image.size) :
    image.u16At offset = .ok (image.byte offset + 0x100 * image.byte (offset + 1)) := by
  unfold u16At Bytes.u16?
  rw [if_pos (show offset + 2 ≤ image.bytes.size from h)]
  rfl

theorem u16At_outside (h : ¬ offset + 2 ≤ image.size) :
    image.u16At offset = .error (.pastEnd offset) := by
  unfold u16At Bytes.u16?
  rw [if_neg (show ¬ offset + 2 ≤ image.bytes.size from h)]

theorem u32At_inside (h : offset + 4 ≤ image.size) :
    image.u32At offset =
      .ok (image.byte offset + 0x100 * (image.byte (offset + 1) +
        0x100 * (image.byte (offset + 2) + 0x100 * image.byte (offset + 3)))) := by
  unfold u32At Bytes.u32?
  rw [if_pos (show offset + 4 ≤ image.bytes.size from h)]
  rfl

theorem u32At_outside (h : ¬ offset + 4 ≤ image.size) :
    image.u32At offset = .error (.pastEnd offset) := by
  unfold u32At Bytes.u32?
  rw [if_neg (show ¬ offset + 4 ≤ image.bytes.size from h)]

theorem u32At_lt (h : image.u32At offset = .ok n) : n < 0x100000000 := by
  obtain ⟨a, b, c, d, -, rfl⟩ := u32At_eq_ok_iff.1 h
  have ha := a.toNat_lt
  have hb := b.toNat_lt
  have hc := c.toNat_lt
  have hd := d.toNat_lt
  omega

theorem tableAt_lt {field : Nat} {t : DexTable} (h : image.tableAt field = .ok t) :
    t.count < 0x100000000 ∧ t.offset < 0x100000000 := by
  obtain ⟨hcount, hoffset⟩ := tableAt_eq_ok_iff.1 h
  exact ⟨u32At_lt (u32At_eq_ok_iff.2 hcount), u32At_lt (u32At_eq_ok_iff.2 hoffset)⟩

/-- The file has room for all items of a table that lies in it. -/
theorem wholeTable_bounds {field itemSize : Nat} {t : DexTable} (hitem : 0 < itemSize)
    (h : image.wholeTable field itemSize = .ok t) :
    t.count < 0x100000000 ∧ t.offset < 0x100000000 ∧ t.count ≤ image.size / itemSize := by
  obtain ⟨htable, hfits⟩ := wholeTable_eq_ok_iff.1 h
  obtain ⟨hcount, hoffset⟩ := tableAt_lt (tableAt_eq_ok_iff.2 htable)
  refine ⟨hcount, hoffset, ?_⟩
  rw [Nat.le_div_iff_mul_le hitem]
  exact Nat.le_trans (Nat.le_add_left _ _) hfits

theorem ulebAt_length_le (h : image.ulebAt offset = .ok (value, length)) : length ≤ 5 := by
  obtain ⟨high, -, -, -, -, hhigh, rfl, -⟩ := ulebAt_eq_ok_iff.1 h
  omega

/-- The bytes up to a zero byte are a front part of all bytes from there on. -/
theorem untilZero_eq (image : DexImage) (offset : Nat) :
    image.untilZero offset =
      ((image.bytes.data.toList.drop offset).findIdx? (· == 0)).map
        (image.bytes.data.toList.drop offset).take := by
  fun_induction untilZero image offset with
  | case1 offset hin hzero =>
    have hdrop : image.bytes.data.toList.drop offset =
        image.bytes[offset] :: image.bytes.data.toList.drop (offset + 1) :=
      List.drop_eq_getElem_cons hin
    rw [hdrop, hzero, List.findIdx?_cons]
    rfl
  | case2 offset hin hzero ih =>
    have hdrop : image.bytes.data.toList.drop offset =
        image.bytes[offset] :: image.bytes.data.toList.drop (offset + 1) :=
      List.drop_eq_getElem_cons hin
    rw [ih, hdrop, List.findIdx?_cons, if_neg (by simpa using hzero), Option.map_map,
      Option.map_map]
    rfl
  | case3 offset hout =>
    have hdrop : image.bytes.data.toList.drop offset = [] :=
      List.drop_eq_nil_of_le (Nat.le_of_not_lt hout)
    rw [hdrop]
    rfl

end DexImage

/-! ## Agreement -/

namespace DexMachine

variable {α β : Type} {m : DexMachine}

/-- A part of a run takes safe steps only, and has the outcome of a part of the reader. -/
structure Agrees (m : DexMachine) (x : Traced α) (y : Except IndexFault α) : Prop where
  outcome : x.outcome = y.mapError (.malformedIndex m.path)
  safe : ∀ step ∈ x.steps, step.Safe m.image.size

theorem agrees_pure (a : α) : m.Agrees (pure a) (.ok a) :=
  ⟨rfl, fun _ hstep => absurd hstep List.not_mem_nil⟩

theorem agrees_malformed (cause : IndexFault) : m.Agrees (m.malformed cause : Traced α) (.error cause) :=
  ⟨rfl, fun _ hstep => absurd hstep List.not_mem_nil⟩

theorem agrees_note (step : Step) (a : α) (h : step.Safe m.image.size) :
    m.Agrees (.note step a) (.ok a) := by
  refine ⟨rfl, fun other hother => ?_⟩
  rw [List.mem_singleton.1 hother]
  exact h

theorem Agrees.bind {x : Traced α} {y : Except IndexFault α} {f : α → Traced β}
    {g : α → Except IndexFault β} (hx : m.Agrees x y)
    (hf : ∀ a, y = .ok a → m.Agrees (f a) (g a)) : m.Agrees (x >>= f) (y >>= g) := by
  obtain ⟨houtcome, hsafe⟩ := hx
  change m.Agrees (x.andThen f) _
  unfold Traced.andThen
  cases y with
  | error cause =>
    rw [houtcome]
    exact ⟨rfl, hsafe⟩
  | ok a =>
    obtain ⟨hnext, hrest⟩ := hf a rfl
    rw [houtcome]
    refine ⟨hnext, fun step hstep => ?_⟩
    rcases List.mem_append.1 hstep with hstep | hstep
    · exact hsafe step hstep
    · exact hrest step hstep

/-- A part that the reader does not have, in front of one that it has. -/
theorem Agrees.before {x : Traced α} {a : α} {f : α → Traced β} {y : Except IndexFault β}
    (hx : m.Agrees x (.ok a)) (hf : m.Agrees (f a) y) : m.Agrees (x >>= f) y := by
  refine hx.bind (g := fun _ => y) fun b hb => ?_
  cases hb
  exact hf

theorem Agrees.stop {x : Traced α} {cause : IndexFault} (hx : m.Agrees x (.error cause))
    (f : α → Traced β) : m.Agrees (x >>= f) (.error cause) :=
  hx.bind (g := fun _ => .error cause) fun _ hb => nomatch hb

theorem Agrees.map {x : Traced α} {y : Except IndexFault α} {f : α → Traced β} {g : α → β}
    (hx : m.Agrees x y) (hf : ∀ a, m.Agrees (f a) (.ok (g a))) : m.Agrees (x >>= f) (y.map g) := by
  have hmap : y.map g = y >>= fun a => .ok (g a) := by cases y <;> rfl
  rw [hmap]
  exact hx.bind fun a _ => hf a

theorem Agrees.check {bad : Prop} [Decidable bad] {cause : IndexFault} {x : Traced α}
    {next : PUnit → Except IndexFault α} {good : Except IndexFault α}
    (h : ¬ bad → m.Agrees x good) :
    m.Agrees (if bad then m.malformed cause else x)
      (if bad then throw cause >>= next else good) := by
  split
  · exact agrees_malformed cause
  · exact h ‹_›

/-- A part for each number from `i` on. -/
theorem agrees_each {f : Nat → Traced α} {g : Nat → Except IndexFault α} (left i : Nat)
    (h : ∀ j, i ≤ j → j < i + left → m.Agrees (f j) (g j)) :
    m.Agrees (Traced.each f left i) ((List.range' i left).mapM g) := by
  induction left generalizing i with
  | zero => exact agrees_pure []
  | succ left ih =>
    rw [List.range'_succ, List.mapM_cons]
    refine (h i (Nat.le_refl i) (by omega)).bind fun first _ => ?_
    refine (ih (i + 1) fun j hj hlast => h j (by omega) (by omega)).bind fun rest _ => ?_
    exact agrees_pure _

/-- The machine keeps to its words, and the file has a length that is one. -/
structure Fits (m : DexMachine) : Prop where
  exact : m.arithmetic.Exact
  size : m.image.size < wordCount

/-! ## Single steps -/

section
variable (hm : m.Fits) {a b : Nat}
include hm

theorem agrees_add (h : a + b < wordCount) : m.Agrees (m.add a b) (.ok (a + b)) := by
  unfold add
  rw [hm.exact.add a b h]
  exact agrees_note (.number (a + b)) _ h

theorem agrees_mul (h : a * b < wordCount) : m.Agrees (m.mul a b) (.ok (a * b)) := by
  unfold mul
  rw [hm.exact.mul a b h]
  exact agrees_note (.number (a * b)) _ h

theorem agrees_add? (h : a + b < wordCount) : m.Agrees (m.add? a b) (.ok (some (a + b))) := by
  unfold add?
  rw [hm.exact.add? a b h]
  exact agrees_note (.number (a + b)) _ h

theorem agrees_mul? (h : a * b < wordCount) : m.Agrees (m.mul? a b) (.ok (some (a * b))) := by
  unfold mul?
  rw [hm.exact.mul? a b h]
  exact agrees_note (.number (a * b)) _ h

end

theorem agrees_slice? {start stop : Nat} (h : start ≤ stop ∧ stop ≤ m.image.size) :
    m.Agrees (m.slice? start stop) (.ok (some ⟨start, stop - start⟩)) := by
  unfold slice?
  rw [if_pos h]
  exact agrees_note (.slice start stop m.image.size) _ h

theorem agrees_slice?_outside {start stop : Nat} (h : ¬ (start ≤ stop ∧ stop ≤ m.image.size)) :
    m.Agrees (m.slice? start stop) (.ok none) := by
  unfold slice?
  rw [if_neg h]
  exact agrees_pure none

theorem agrees_byte {start length index : Nat} (h : index < length) :
    m.Agrees (m.byte ⟨start, length⟩ index) (.ok (m.image.byte (start + index))) :=
  agrees_note (.byte index length) _ h

/-! ## Numbers -/

section
variable (hm : m.Fits) {offset : Nat}
include hm

theorem agrees_bytes {length : Nat} (h : offset + length ≤ m.image.size) :
    m.Agrees (m.bytes offset length) (.ok ⟨offset, length⟩) := by
  have hsize := hm.size
  unfold bytes
  refine (agrees_add? hm (by omega)).before ?_
  refine (agrees_slice? ⟨Nat.le_add_right offset length, h⟩).before ?_
  rw [Nat.add_sub_cancel_left]
  exact agrees_pure _

theorem agrees_bytes_outside {length : Nat} (hword : offset + length < wordCount)
    (h : ¬ offset + length ≤ m.image.size) :
    m.Agrees (m.bytes offset length) (.error (.pastEnd offset)) := by
  unfold bytes
  refine (agrees_add? hm hword).before ?_
  refine (agrees_slice?_outside fun hin => h hin.2).before ?_
  exact agrees_malformed _

theorem agrees_u16At (hword : offset + 2 < wordCount) :
    m.Agrees (m.u16At offset) (m.image.u16At offset) := by
  unfold u16At
  by_cases h : offset + 2 ≤ m.image.size
  · rw [DexImage.u16At_inside h]
    refine (agrees_bytes hm h).before ?_
    refine (agrees_byte (by decide)).before ?_
    refine (agrees_byte (by decide)).before ?_
    exact agrees_pure _
  · rw [DexImage.u16At_outside h]
    exact (agrees_bytes_outside hm hword h).stop _

theorem agrees_u32At (hword : offset + 4 < wordCount) :
    m.Agrees (m.u32At offset) (m.image.u32At offset) := by
  unfold u32At
  by_cases h : offset + 4 ≤ m.image.size
  · rw [DexImage.u32At_inside h]
    refine (agrees_bytes hm h).before ?_
    refine (agrees_byte (by decide)).before ?_
    refine (agrees_byte (by decide)).before ?_
    refine (agrees_byte (by decide)).before ?_
    refine (agrees_byte (by decide)).before ?_
    exact agrees_pure _
  · rw [DexImage.u32At_outside h]
    exact (agrees_bytes_outside hm hword h).stop _

end

/-! ## Variable lengths -/

section
variable (hm : m.Fits)
include hm

/-- At most five groups are read, so the place of each is a word. -/
theorem agrees_ulebGroups {start : Nat} (hstart : start < 0x100000000) (left i : Nat)
    (hi : i + left ≤ 5) :
    m.Agrees (m.ulebGroups start left i) (m.image.ulebGroups start left i) := by
  induction left generalizing i with
  | zero => exact agrees_malformed _
  | succ left ih =>
    have hword : start + i + 1 < wordCount := lt_wordCount (by omega)
    unfold ulebGroups DexImage.ulebGroups
    refine (agrees_add hm (by omega)).before ?_
    -- The reader looks whether the byte is there, the machine cuts a slice of one byte.
    by_cases hin : start + i < m.image.size
    · rw [if_pos hin]
      refine (agrees_bytes hm hin).before ?_
      refine (agrees_byte (by decide)).before ?_
      simp only [Nat.add_zero]
      by_cases hlow : m.image.byte (start + i) < 0x80
      · rw [if_pos hlow, if_pos hlow]
        refine (agrees_add hm (by omega)).before ?_
        exact agrees_pure _
      · rw [if_neg hlow, if_neg hlow]
        exact (ih (i + 1) (by omega)).map fun _ => agrees_pure _
    · rw [if_neg hin]
      exact (agrees_bytes_outside hm hword hin).stop _

theorem agrees_ulebAt {offset : Nat} (h : offset < 0x100000000) :
    m.Agrees (m.ulebAt offset) (m.image.ulebAt offset) :=
  (agrees_ulebGroups hm h 5 0 (Nat.le_refl 5)).map fun _ => agrees_pure _

/-! ## Tables -/

theorem agrees_tableAt {field : Nat} (h : field < 0x100000000) :
    m.Agrees (m.tableAt field) (m.image.tableAt field) := by
  have hword : field + 4 + 4 < wordCount := lt_wordCount (by omega)
  refine (agrees_u32At hm (by omega)).bind fun count _ => ?_
  refine (agrees_add hm (by omega)).before ?_
  refine (agrees_u32At hm hword).bind fun offset _ => ?_
  exact agrees_pure _

theorem agrees_wholeTable {field itemSize : Nat} (hfield : field < 0x100000000)
    (hitem : itemSize < 0x100) :
    m.Agrees (m.wholeTable field itemSize) (m.image.wholeTable field itemSize) := by
  refine (agrees_tableAt hm hfield).bind fun t ht => ?_
  obtain ⟨hcount, hoffset⟩ := DexImage.tableAt_lt ht
  have hlength : t.count * itemSize ≤ 0x100000000 * 0x100 :=
    Nat.mul_le_mul (Nat.le_of_lt hcount) (Nat.le_of_lt hitem)
  have hword : t.offset + t.count * itemSize < wordCount := lt_wordCount (by omega)
  have hstop : m.Agrees (m.stop? t itemSize) (.ok (some (t.offset + t.count * itemSize))) :=
    (agrees_mul? hm (by omega)).before (agrees_add? hm hword)
  refine hstop.before ?_
  dsimp only
  split
  · exact agrees_pure t
  · exact agrees_malformed _

/-- The offset of an item of a table is a word, and so is the end of the item. -/
theorem agrees_itemAt {t : DexTable} {i itemSize : Nat} (hoffset : t.offset < 0x100000000)
    (hi : i < 0x100000000) (hitem : itemSize < 0x100) {f : Nat → Traced α}
    {y : Except IndexFault α}
    (hf : t.offset + i * itemSize < 0x10100000000 → m.Agrees (f (t.offset + i * itemSize)) y) :
    m.Agrees (m.mul i itemSize >>= fun place => m.add t.offset place >>= f) y := by
  have hplace : i * itemSize ≤ 0x100000000 * 0x100 :=
    Nat.mul_le_mul (Nat.le_of_lt hi) (Nat.le_of_lt hitem)
  have hword : t.offset + i * itemSize < wordCount := lt_wordCount (by omega)
  refine (agrees_mul hm (by omega)).before ?_
  refine (agrees_add hm hword).before ?_
  exact hf (by omega)

/-! ## Strings and types -/

theorem agrees_characters (start : Nat) :
    m.Agrees (m.characters ⟨start, m.image.size - start⟩)
      (match m.image.untilZero start with
        | some characters => .ok characters
        | none => .error .stringOpen) := by
  have hlength : (m.image.bytes.data.toList.drop start).length = m.image.size - start :=
    List.length_drop
  have hcontents : m.contents ⟨start, m.image.size - start⟩ =
      m.image.bytes.data.toList.drop start :=
    List.take_of_length_le (Nat.le_of_eq hlength)
  unfold characters
  rw [hcontents, DexImage.untilZero_eq]
  cases hfound : (m.image.bytes.data.toList.drop start).findIdx? (· == 0) with
  | none => exact agrees_malformed _
  | some found =>
    obtain ⟨hin, -⟩ := List.findIdx?_eq_some_iff_getElem.1 hfound
    have hsize := hm.size
    have hword : found < wordCount := by omega
    have hfront : 0 ≤ found ∧ found ≤ m.image.size - start := ⟨Nat.zero_le _, by omega⟩
    refine (agrees_note (.number found) _ hword).before ?_
    refine (agrees_note (.slice 0 found (m.image.size - start)) _ hfront).before ?_
    exact agrees_pure _

/-- The check of the index bounds the place of the string's offset, and the offset bounds the rest. -/
theorem agrees_stringAt (index : Nat) :
    m.Agrees (m.stringAt index) (m.image.stringAt index) := by
  have hsize := hm.size
  refine (agrees_tableAt hm (by decide)).bind fun ids hids => .check fun hindex => ?_
  obtain ⟨hcount, hoffset⟩ := DexImage.tableAt_lt hids
  refine agrees_itemAt hm hoffset (by omega) (by decide) fun hitem => ?_
  refine (agrees_u32At hm (lt_wordCount (by omega))).bind fun offset hat => ?_
  have hstart := DexImage.u32At_lt hat
  refine (agrees_ulebAt hm hstart).bind fun ⟨value, length⟩ hlength => ?_
  have hshort := DexImage.ulebAt_length_le hlength
  refine (agrees_add hm (lt_wordCount (by omega))).before ?_
  dsimp only
  by_cases hout : m.image.size < offset + length
  · rw [if_pos hout]
    refine (agrees_slice?_outside fun hin => by omega).before ?_
    exact agrees_malformed _
  · rw [if_neg hout]
    refine (agrees_slice? ⟨by omega, Nat.le_refl _⟩).before ?_
    have hcharacters := agrees_characters hm (offset + length)
    cases hfound : m.image.untilZero (offset + length) with
    | none =>
      rw [hfound] at hcharacters
      exact hcharacters.stop _
    | some found =>
      rw [hfound] at hcharacters
      exact hcharacters.before (agrees_pure _)

theorem agrees_typeAt (index : Nat) : m.Agrees (m.typeAt index) (m.image.typeAt index) := by
  refine (agrees_tableAt hm (by decide)).bind fun ids hids => .check fun hindex => ?_
  obtain ⟨hcount, hoffset⟩ := DexImage.tableAt_lt hids
  refine agrees_itemAt hm hoffset (by omega) (by decide) fun hitem => ?_
  refine (agrees_u32At hm (lt_wordCount (by omega))).bind fun string _ => ?_
  exact agrees_stringAt hm string

/-! ## Methods -/

theorem agrees_parameterAt {offset i : Nat} (hoffset : offset < 0x100000000)
    (hi : i < 0x100000000) :
    m.Agrees (m.parameterAt offset i) (m.image.u16At (offset + 4 + i * 2) >>= m.image.typeAt) := by
  have hword : offset + 4 + i * 2 + 2 < wordCount := lt_wordCount (by omega)
  refine (agrees_add hm (by omega)).before ?_
  refine (agrees_mul hm (by omega)).before ?_
  refine (agrees_add hm (by omega)).before ?_
  exact (agrees_u16At hm hword).bind fun index _ => agrees_typeAt hm index

/-- The parameters from number `i` on. The reader goes on from each to the next, the machine counts. -/
theorem agrees_each_parameter {offset : Nat} (hoffset : offset < 0x100000000) (left i : Nat)
    (hi : i + left < 0x100000000) :
    m.Agrees (Traced.each (m.parameterAt offset) left i)
      (m.image.parametersAt (offset + 4 + i * 2) left) := by
  induction left generalizing i with
  | zero => exact agrees_pure []
  | succ left ih =>
    have hsplit : m.image.parametersAt (offset + 4 + i * 2) (left + 1) =
        (m.image.u16At (offset + 4 + i * 2) >>= m.image.typeAt) >>= fun parameter =>
          m.image.parametersAt (offset + 4 + (i + 1) * 2) left >>= fun rest =>
            .ok (parameter :: rest) := by
      rw [bind_assoc, Nat.succ_mul, ← Nat.add_assoc]
      rfl
    rw [hsplit]
    refine (agrees_parameterAt hm hoffset (by omega)).bind fun parameter _ => ?_
    refine (ih (i + 1) (by omega)).bind fun rest _ => ?_
    exact agrees_pure _

theorem agrees_parametersAt {offset : Nat} (hoffset : offset < 0x100000000) :
    m.Agrees (m.parametersAt offset)
      (if offset = 0 then .ok []
        else m.image.u32At offset >>= fun count => m.image.parametersAt (offset + 4) count) := by
  unfold parametersAt
  split
  · exact agrees_pure []
  · refine (agrees_u32At hm (lt_wordCount (by omega))).bind fun count hcount => ?_
    have hword := DexImage.u32At_lt hcount
    exact agrees_each_parameter hm hoffset count 0 (by omega)

theorem agrees_protoAt (index : Nat) : m.Agrees (m.protoAt index) (m.image.protoAt index) := by
  refine (agrees_tableAt hm (by decide)).bind fun ids hids => .check fun hindex => ?_
  obtain ⟨hcount, hoffset⟩ := DexImage.tableAt_lt hids
  refine agrees_itemAt hm hoffset (by omega) (by decide) fun hitem => ?_
  have hword : ids.offset + index * DexImage.protoIdSize + 8 + 4 < wordCount :=
    lt_wordCount (by omega)
  refine (agrees_add hm (by omega)).before ?_
  refine (agrees_u32At hm (by omega)).bind fun result _ => ?_
  refine (agrees_add hm (by omega)).before ?_
  refine (agrees_u32At hm hword).bind fun offset hat => ?_
  have hparameters := agrees_parametersAt hm (DexImage.u32At_lt hat)
  have hrest : ∀ parameters : List String, m.Agrees
      (m.typeAt result >>= fun descriptor => pure (parameters, descriptor))
      (m.image.typeAt result >>= fun descriptor => pure (parameters, descriptor)) :=
    fun parameters => (agrees_typeAt hm result).bind fun descriptor _ => agrees_pure _
  have hwhole := hparameters.bind fun parameters _ => hrest parameters
  dsimp only
  by_cases hzero : offset = 0
  · rw [if_pos hzero] at hwhole ⊢
    exact hwhole
  · rw [if_neg hzero, bind_assoc] at hwhole
    rw [if_neg hzero]
    exact hwhole

theorem agrees_methodAt {offset : Nat} (h : offset < 0x10100000000) :
    m.Agrees (m.methodAt offset) (m.image.methodAt offset) := by
  have hword : offset + 4 + 4 < wordCount := lt_wordCount (by omega)
  refine (agrees_u16At hm (by omega)).bind fun owner _ => ?_
  refine (agrees_add hm (by omega)).before ?_
  refine (agrees_u16At hm (by omega)).bind fun proto _ => ?_
  refine (agrees_add hm (by omega)).before ?_
  refine (agrees_u32At hm hword).bind fun name _ => ?_
  refine (agrees_typeAt hm owner).bind fun ownerText _ => ?_
  refine (agrees_stringAt hm name).bind fun nameText _ => ?_
  refine (agrees_protoAt hm proto).bind fun ⟨parameters, result⟩ _ => ?_
  exact agrees_pure _

/-! ## The whole file -/

theorem agrees_classes : m.Agrees m.classes m.image.classes := by
  refine (agrees_wholeTable hm (by decide) (by decide)).bind fun defs hdefs => ?_
  obtain ⟨hcount, hoffset, hroom⟩ := DexImage.wholeTable_bounds (by decide) hdefs
  refine (agrees_note (.classRoom defs.count) _ hroom).before ?_
  rw [List.range_eq_range']
  refine agrees_each defs.count 0 fun i _ hi => ?_
  refine agrees_itemAt hm hoffset (by omega) (by decide) fun hitem => ?_
  refine (agrees_u32At hm (lt_wordCount (by omega))).bind fun type _ => ?_
  exact agrees_typeAt hm type

theorem agrees_methods : m.Agrees m.methods m.image.methods := by
  refine (agrees_wholeTable hm (by decide) (by decide)).bind fun ids hids => ?_
  obtain ⟨hcount, hoffset, hroom⟩ := DexImage.wholeTable_bounds (by decide) hids
  refine (agrees_note (.methodRoom ids.count) _ hroom).before ?_
  rw [List.range_eq_range']
  refine agrees_each ids.count 0 fun i _ hi => ?_
  exact agrees_itemAt hm hoffset (by omega) (by decide) fun hitem => agrees_methodAt hm hitem

theorem agrees_run : m.Agrees m.run (ClassIndex.read m.image) := by
  refine .check fun _ => ?_
  refine (agrees_classes hm).bind fun classes _ => ?_
  refine (agrees_methods hm).bind fun methods _ => ?_
  exact agrees_pure _

end

end DexMachine

/-! ## The law -/

/-- In a file shorter than half of all words, every number that is made on the way is a word, every
slice and every byte lies where it is taken from, and the room that is reserved is that of the file's
own tables. So a machine with words of 64 bits, whether its checked results are checked or cut like
the others, reads what is read without a bound, and the only fault is that the file is malformed. -/
theorem words_are_enough_to_read_a_file {data : ByteArray} (path : Path)
    (h : data.size < 0x8000000000000000) :
    (DexMachine.run ⟨.wrapping, ⟨data⟩, path⟩).outcome =
      (DexMachine.run ⟨.unbounded, ⟨data⟩, path⟩).outcome ∧
    (DexMachine.run ⟨.words, ⟨data⟩, path⟩).outcome =
      (DexMachine.run ⟨.unbounded, ⟨data⟩, path⟩).outcome ∧
    (DexMachine.run ⟨.unbounded, ⟨data⟩, path⟩).outcome = ClassIndex.ofBytes data path ∧
    (∀ arithmetic ∈ [Arithmetic.wrapping, .words, .unbounded],
      ∀ step ∈ (DexMachine.run ⟨arithmetic, ⟨data⟩, path⟩).steps, step.Safe data.size) ∧
    ∀ fault, ClassIndex.ofBytes data path = .error fault →
      ∃ cause, fault = .malformedIndex path cause := by
  have hsize : data.size < wordCount := lt_wordCount h
  have hagrees : ∀ arithmetic : Arithmetic, arithmetic.Exact →
      DexMachine.Agrees ⟨arithmetic, ⟨data⟩, path⟩ (DexMachine.run ⟨arithmetic, ⟨data⟩, path⟩)
        (ClassIndex.read ⟨data⟩) :=
    fun arithmetic hexact => DexMachine.agrees_run ⟨hexact, hsize⟩
  have hbytes : ClassIndex.ofBytes data path =
      (ClassIndex.read ⟨data⟩).mapError (.malformedIndex path) := by
    unfold ClassIndex.ofBytes
    cases ClassIndex.read ⟨data⟩ <;> rfl
  have hwrapping := hagrees _ Arithmetic.exact_wrapping
  have hwords := hagrees _ Arithmetic.exact_words
  have hunbounded := hagrees _ Arithmetic.exact_unbounded
  refine ⟨hwrapping.outcome.trans hunbounded.outcome.symm,
    hwords.outcome.trans hunbounded.outcome.symm, hunbounded.outcome.trans hbytes.symm, ?_, ?_⟩
  · simpa using ⟨hwrapping.safe, hwords.safe, hunbounded.safe⟩
  · intro fault hfault
    rcases ClassIndex.ofBytes_eq_ok_or_malformed data path with ⟨index, hindex⟩ | ⟨cause, hcause⟩
    · rw [hfault] at hindex
      cases hindex
    · rw [hfault, Except.error.injEq] at hcause
      exact ⟨cause, hcause⟩

/-- A file that is only a header, with as many classes as a field can say. -/
def overfullFile : ByteArray :=
  ⟨(([0x64, 0x65, 0x78, 0x0A] : List UInt8) ++ List.replicate 92 0 ++ List.replicate 4 0xFF
    ++ List.replicate 12 0).toArray⟩

theorem ofBytes_overfullFile : ClassIndex.ofBytes overfullFile ⟨"classes.dex"⟩ =
    .error (.malformedIndex ⟨"classes.dex"⟩ (.tableTooLong 0xFFFFFFFF 0 0x70)) := by
  rfl

/-- A machine whose results are all cut to words reads the file with a hyphen. Of the other file it
says that the classes are too many, and takes safe steps only. -/
theorem wrapping_words_read_two_files :
    (DexMachine.run ⟨.wrapping, ⟨hyphenatedFile⟩, ⟨"classes.dex"⟩⟩).outcome =
      .ok ⟨["LFoo$-CC;"], ["LFoo$-CC;->run()V"]⟩ ∧
    (DexMachine.run ⟨.wrapping, ⟨overfullFile⟩, ⟨"classes.dex"⟩⟩).outcome =
      .error (.malformedIndex ⟨"classes.dex"⟩ (.tableTooLong 0xFFFFFFFF 0 0x70)) ∧
    ∀ step ∈ (DexMachine.run ⟨.wrapping, ⟨overfullFile⟩, ⟨"classes.dex"⟩⟩).steps,
      step.Safe 0x70 := by
  have hsmall : hyphenatedFile.size < 0x8000000000000000 := by decide +kernel
  have hheader : overfullFile.size = 0x70 := by decide +kernel
  have hsmall' : overfullFile.size < 0x8000000000000000 := by omega
  obtain ⟨hwrapping, -, hread, -⟩ := words_are_enough_to_read_a_file ⟨"classes.dex"⟩ hsmall
  obtain ⟨hwrapping', -, hread', hsafe, -⟩ :=
    words_are_enough_to_read_a_file ⟨"classes.dex"⟩ hsmall'
  refine ⟨hwrapping.trans (hread.trans ofBytes_hyphenatedFile),
    hwrapping'.trans (hread'.trans ofBytes_overfullFile), ?_⟩
  rw [← hheader]
  exact hsafe _ (by simp)

end AppBoundary
