import Mathlib.Algebra.Group.Nat.Defs
import TileRealm.Proofs.Terrain.Store
import TileRealm.Terrain.MapText

/-!
# What maps say

A map is read character by character, and what was read can be written again.

- `Terrain.IsRow`, `Terrain.IsMap`: rows of equal length whose characters stand for tiles;
- `Terrain.readGlyphs_of_glyphs`, `Terrain.readRows_of_rows`: of such rows, each character is read as its tile;
- `Terrain.readGlyphs_of_stray`, `Terrain.readRows_of_defect`: other rows are refused at their first defect
  (`Terrain.RowDefect`), and there is one (`Terrain.exists_rowDefect`);
- `Terrain.picture`, `Terrain.ofRows_eq_ok_iff`: the terrain of a map, whose store has a place for each tile
  (`Terrain.covers_picture`);
- `Terrain.Shows`, `Terrain.shows_picture`: tile by tile, the terrain shows the map, and the map can be written again;
- `Terrain.ofRows_exact`: so every list of rows is read exactly.
-/

set_option autoImplicit false

namespace TileRealm

namespace Terrain

/-! ## Rows -/

/-- A character that stands for a tile. -/
def IsGlyph (c : Char) : Prop :=
  c = '.' ∨ c = '#'

instance (c : Char) : Decidable (IsGlyph c) :=
  inferInstanceAs (Decidable (_ ∨ _))

/-- So many characters that stand for tiles. -/
def IsRow (width : Nat) (row : String) : Prop :=
  row.length = width ∧ ∀ c ∈ row.toList, IsGlyph c

-- character by character of the row, not of all characters there are
instance (width : Nat) (row : String) : Decidable (IsRow width row) :=
  have : Decidable (∀ c ∈ row.toList, IsGlyph c) := List.decidableBAll IsGlyph row.toList
  inferInstanceAs (Decidable (_ ∧ _))

/-- What the characters of a row stand for. -/
def cellsOf (row : String) : List Bool :=
  row.toList.map (· == '.')

/-- What is wrong with the first row that is none, where the first row at all has number `y`. -/
inductive RowDefect (width y : Nat) (rows : List String) : TerrainError → Prop
  | length {above below : List String} {row : String} : rows = above ++ row :: below →
      (∀ r ∈ above, IsRow width r) → row.length ≠ width →
      RowDefect width y rows (.rowLength (y + above.length) row.length width)
  /-- The length of a row comes before its characters. -/
  | glyph {above below : List String} {row : String} {before after : List Char} {c : Char} :
      rows = above ++ row :: below → (∀ r ∈ above, IsRow width r) → row.length = width →
      row.toList = before ++ c :: after → (∀ d ∈ before, IsGlyph d) → ¬ IsGlyph c →
      RowDefect width y rows (.glyph c before.length (y + above.length))

section

variable {c : Char} {cs before after : List Char} {y width : Nat} {rows above : List String} {e : TerrainError}

theorem ofGlyph?_of_isGlyph (hc : IsGlyph c) : ofGlyph? c = some (c == '.') := by
  rcases hc with rfl | rfl <;> rfl

theorem ofGlyph?_of_not_isGlyph (hc : ¬ IsGlyph c) : ofGlyph? c = none := by
  rw [IsGlyph, not_or] at hc
  rw [ofGlyph?, if_neg hc.1, if_neg hc.2]

theorem glyph_beq (hc : IsGlyph c) : glyph (c == '.') = c := by
  rcases hc with rfl | rfl <;> rfl

/-- The characters in front are read before what comes behind them. -/
theorem readGlyphs_append (hbefore : ∀ d ∈ before, IsGlyph d) (y x : Nat) (cs : List Char) :
    readGlyphs y x (before ++ cs) =
      (readGlyphs y (x + before.length) cs).map (before.map (· == '.') ++ ·) := by
  induction before generalizing x with
  | nil => cases h : readGlyphs y x cs <;> simp [h, Except.map]
  | cons d before ih =>
    obtain ⟨hd, hbefore⟩ := List.forall_mem_cons.mp hbefore
    rw [List.cons_append, readGlyphs, ofGlyph?_of_isGlyph hd]
    simp only [ih hbefore, List.length_cons, Nat.add_right_comm x 1, ← Nat.add_assoc]
    cases readGlyphs y (x + before.length + 1) cs <;> rfl

theorem readGlyphs_of_glyphs (hcs : ∀ c ∈ cs, IsGlyph c) (y x : Nat) :
    readGlyphs y x cs = .ok (cs.map (· == '.')) := by
  have h := readGlyphs_append hcs y x []
  rw [List.append_nil] at h
  rw [h, readGlyphs, Except.map, List.append_nil]

theorem readGlyphs_of_stray (hbefore : ∀ d ∈ before, IsGlyph d) (hc : ¬ IsGlyph c) (y x : Nat) (after : List Char) :
    readGlyphs y x (before ++ c :: after) = .error (.glyph c (x + before.length) y) := by
  rw [readGlyphs_append hbefore, readGlyphs, ofGlyph?_of_not_isGlyph hc]
  rfl

/-- The rows above are read before those below them. -/
theorem readRows_append (habove : ∀ r ∈ above, IsRow width r) (y : Nat) (rows : List String) :
    readRows width y ((above ++ rows).map String.toList) =
      (readRows width (y + above.length) (rows.map String.toList)).map (above.flatMap cellsOf ++ ·) := by
  induction above generalizing y with
  | nil => cases h : readRows width y (rows.map String.toList) <;> simp [h, Except.map]
  | cons r above ih =>
    obtain ⟨⟨hlength, hr⟩, habove⟩ := List.forall_mem_cons.mp habove
    rw [← String.length_toList] at hlength
    rw [List.cons_append, List.map_cons, readRows, if_pos hlength, readGlyphs_of_glyphs hr, ih habove]
    simp only [List.length_cons, Nat.add_right_comm y 1, ← Nat.add_assoc]
    cases readRows width (y + above.length + 1) (rows.map String.toList) with
    | error e => rfl
    | ok cells => simp [bind, Except.bind, Except.map, pure, Except.pure, cellsOf]

theorem readRows_of_rows (hrows : ∀ row ∈ rows, IsRow width row) (y : Nat) :
    readRows width y (rows.map String.toList) = .ok (rows.flatMap cellsOf) := by
  have h := readRows_append hrows y []
  rw [List.append_nil] at h
  rw [h, List.map_nil, readRows, Except.map, List.append_nil]

/-- Rows are refused at their first defect. -/
theorem readRows_of_defect (h : RowDefect width y rows e) :
    readRows width y (rows.map String.toList) = .error e := by
  cases h with
  | length hrows habove hlength =>
    rw [← String.length_toList] at hlength
    rw [hrows, readRows_append habove, List.map_cons, readRows, if_neg hlength, String.length_toList]
    rfl
  | glyph hrows habove hlength hrow hbefore hc =>
    rw [← String.length_toList] at hlength
    rw [hrows, readRows_append habove, List.map_cons, readRows, if_pos hlength, hrow,
      readGlyphs_of_stray hbefore hc, Nat.zero_add]
    rfl

/-- A list without a property has a first member without it. -/
theorem exists_first {α : Type} {p : α → Prop} [DecidablePred p] {l : List α} (h : ¬ ∀ a ∈ l, p a) :
    ∃ before a after, l = before ++ a :: after ∧ (∀ b ∈ before, p b) ∧ ¬ p a := by
  cases hfind : l.find? fun a => !decide (p a) with
  | none =>
    refine absurd (fun a ha => ?_) h
    simpa using List.find?_eq_none.mp hfind a ha
  | some a =>
    obtain ⟨ha, before, after, hl, hbefore⟩ := List.find?_eq_some_iff_append.mp hfind
    exact ⟨before, a, after, hl, fun b hb => by simpa using hbefore b hb, by simpa using ha⟩

/-- Where not all are rows there is a first defect. -/
theorem exists_rowDefect (h : ¬ ∀ row ∈ rows, IsRow width row) (y : Nat) : ∃ e, RowDefect width y rows e := by
  obtain ⟨above, row, below, hrows, habove, hrow⟩ := exists_first h
  by_cases hlength : row.length = width
  · have hstray : ¬ ∀ c ∈ row.toList, IsGlyph c := fun hall => hrow ⟨hlength, hall⟩
    obtain ⟨before, c, after, hcs, hbefore, hc⟩ := exists_first hstray
    exact ⟨_, .glyph hrows habove hlength hcs hbefore hc⟩
  · exact ⟨_, .length hrows habove hlength⟩

end

/-! ## Maps -/

/-- The number of characters of the first row. -/
def widthOf (rows : List String) : Nat :=
  (rows.head?.getD "").length

/-- There is a row, and it is not empty; all rows have its length, and all characters stand for tiles. -/
structure IsMap (rows : List String) : Prop where
  width_pos : 0 < widthOf rows
  height_pos : 0 < rows.length
  rows : ∀ row ∈ rows, IsRow (widthOf rows) row

/-- What is wrong with rows that are no map, as a reader meets it first. -/
inductive FirstDefect (rows : List String) : TerrainError → Prop
  /-- There are no tiles. -/
  | empty : widthOf rows = 0 → FirstDefect rows (.dimensions 0 (UInt32.ofNat rows.length))
  | row {e : TerrainError} : 0 < widthOf rows → RowDefect (widthOf rows) 0 rows e → FirstDefect rows e

/-- The terrain of a map. -/
def picture (rows : List String) : Terrain :=
  ⟨UInt32.ofNat (widthOf rows), UInt32.ofNat rows.length, .dense (rows.flatMap cellsOf).toArray⟩

variable {rows : List String} {t : Terrain} {e : TerrainError}

theorem ofRows_eq (rows : List String) : ofRows rows =
    if UInt32.ofNat (widthOf rows) = 0 ∨ UInt32.ofNat rows.length = 0 then
      .error (.dimensions (UInt32.ofNat (widthOf rows)) (UInt32.ofNat rows.length))
    else (readRows (widthOf rows) 0 (rows.map String.toList)).map fun cells =>
      ⟨UInt32.ofNat (widthOf rows), UInt32.ofNat rows.length, .dense cells.toArray⟩ := by
  have hwidth : ((rows.map String.toList).head?.getD []).length = widthOf rows := by
    cases rows <;> simp [widthOf, String.length_toList]
  simp only [ofRows, hwidth, List.length_map, checkSize]
  split
  · rfl
  · cases readRows (widthOf rows) 0 (rows.map String.toList) <;> rfl

/-- Rows are read if there are any tiles to read and all of them are rows; what is read is the terrain of the map. -/
theorem ofRows_eq_ok_iff : ofRows rows = .ok t ↔
    (0 < t.width ∧ 0 < t.height) ∧ (∀ row ∈ rows, IsRow (widthOf rows) row) ∧ t = picture rows := by
  rw [ofRows_eq]
  split
  · rename_i hempty
    refine ⟨nofun, fun h => ?_⟩
    obtain ⟨⟨hwidth, hheight⟩, -, rfl⟩ := h
    rcases hempty with h | h
    · exact absurd (h ▸ hwidth) (UInt32.lt_irrefl 0)
    · exact absurd (h ▸ hheight) (UInt32.lt_irrefl 0)
  · rename_i hfull
    obtain ⟨hwidth, hheight⟩ := not_or.mp hfull
    by_cases hrows : ∀ row ∈ rows, IsRow (widthOf rows) row
    · have hpicture : picture rows = t ↔ (0 < t.width ∧ 0 < t.height) ∧ t = picture rows := by
        constructor
        · rintro rfl
          exact ⟨⟨UInt32.pos_iff_ne_zero.mpr hwidth, UInt32.pos_iff_ne_zero.mpr hheight⟩, rfl⟩
        · exact fun h => h.2.symm
      rw [readRows_of_rows hrows, and_iff_right hrows, ← hpicture]
      rw [Except.map, Except.ok.injEq]
      rfl
    · obtain ⟨e, he⟩ := exists_rowDefect hrows 0
      simp [readRows_of_defect he, hrows, Except.map]

/-! ## Tiles -/

theorem getElem?_flatMap {α β : Type} {f : α → List β} {width : Nat} {l : List α}
    (hl : ∀ a ∈ l, (f a).length = width) (y : Nat) {x : Nat} (hx : x < width) :
    (l.flatMap f)[y * width + x]? = l[y]?.bind fun a => (f a)[x]? := by
  induction l generalizing y with
  | nil => simp
  | cons a l ih =>
    obtain ⟨ha, hl⟩ := List.forall_mem_cons.mp hl
    rw [List.flatMap_cons]
    cases y with
    | zero =>
      rw [List.getElem?_append_left (by omega), Nat.zero_mul, Nat.zero_add]
      rfl
    | succ y =>
      have hrest : (y + 1) * width + x - (f a).length = y * width + x := by
        rw [ha, Nat.succ_mul]
        omega
      rw [List.getElem?_append_right (by rw [ha, Nat.succ_mul]; omega), hrest, ih hl]
      rfl

/-- The character in a column and a row. -/
def charAt (rows : List String) (x y : Nat) : Option Char :=
  rows[y]?.bind fun row => row.toList[x]?

/-- A terrain shows a map: it is as wide and as high, and its free tiles are the points of the map, which can be written
again. -/
structure Shows (t : Terrain) (rows : List String) : Prop where
  width : t.width.toNat = widthOf rows
  height : t.height.toNat = rows.length
  walkableAt_iff : ∀ x y : Int,
    t.walkableAt x y = true ↔ t.inBounds x y = true ∧ charAt rows x.toNat y.toNat = some '.'
  rows : t.rows = rows

theorem length_flatMap_cellsOf {width : Nat} (hrows : ∀ row ∈ rows, IsRow width row) :
    (rows.flatMap cellsOf).length = rows.length * width := by
  induction rows with
  | nil => simp
  | cons row rows ih =>
    obtain ⟨⟨hrow, -⟩, hrows⟩ := List.forall_mem_cons.mp hrows
    rw [List.flatMap_cons, List.length_append, ih hrows, cellsOf, List.length_map, String.length_toList, hrow,
      List.length_cons, Nat.succ_mul, Nat.add_comm]

/-- The store has a place for each tile, also where the rows are longer than a side can be. -/
theorem covers_picture (hrows : ∀ row ∈ rows, IsRow (widthOf rows) row) :
    (picture rows).store.Covers (picture rows).area := by
  show (UInt32.ofNat (widthOf rows)).toNat * (UInt32.ofNat rows.length).toNat ≤ (rows.flatMap cellsOf).toArray.size
  rw [List.size_toArray, length_flatMap_cellsOf hrows, Nat.mul_comm, UInt32.toNat_ofNat', UInt32.toNat_ofNat']
  exact Nat.mul_le_mul (Nat.mod_le _ _) (Nat.mod_le _ _)

/-- Row by row, the store holds what the characters stand for. -/
theorem read_picture (hrows : ∀ row ∈ rows, IsRow (widthOf rows) row) {x y : Nat} (hx : x < widthOf rows) :
    (picture rows).store.read (y * widthOf rows + x) = (charAt rows x y == some '.') := by
  have hlength : ∀ row ∈ rows, (cellsOf row).length = widthOf rows := fun row hrow => by
    rw [cellsOf, List.length_map, String.length_toList, (hrows row hrow).1]
  show (rows.flatMap cellsOf).toArray.getD (y * widthOf rows + x) false = _
  rw [Array.getD_eq_getD_getElem?, List.getElem?_toArray, getElem?_flatMap hlength y hx, charAt]
  cases rows[y]? with
  | none => rfl
  | some row =>
    rw [Option.bind_some, Option.bind_some, cellsOf, List.getElem?_map]
    cases row.toList[x]? <;> simp

theorem toNat_width_picture (hwidth : widthOf rows < 2 ^ 32) : (picture rows).width.toNat = widthOf rows :=
  UInt32.toNat_ofNat_of_lt' hwidth

theorem toNat_height_picture (hheight : rows.length < 2 ^ 32) : (picture rows).height.toNat = rows.length :=
  UInt32.toNat_ofNat_of_lt' hheight

theorem walkableAt_picture (hwidth : widthOf rows < 2 ^ 32) (hrows : ∀ row ∈ rows, IsRow (widthOf rows) row)
    (x y : Int) : (picture rows).walkableAt x y =
      ((picture rows).inBounds x y && charAt rows x.toNat y.toNat == some '.') := by
  rw [walkableAt, index?]
  cases hin : (picture rows).inBounds x y with
  | false => rfl
  | true =>
    have hplace := of_decide_eq_true hin
    rw [toNat_width_picture hwidth] at hplace
    simp only [if_true, toNat_width_picture hwidth, Bool.true_and]
    exact read_picture hrows (by omega)

/-- What was read can be written again. -/
theorem rows_picture (hwidth : widthOf rows < 2 ^ 32) (hheight : rows.length < 2 ^ 32)
    (hrows : ∀ row ∈ rows, IsRow (widthOf rows) row) : (picture rows).rows = rows := by
  have hw := toNat_width_picture hwidth
  have hh := toNat_height_picture hheight
  refine List.ext_getElem (by simp [Terrain.rows, glyphRows, hh]) fun y hy hy' => ?_
  obtain ⟨hlength, hglyphs⟩ := hrows rows[y] (List.getElem_mem hy')
  rw [← String.length_toList] at hlength
  refine String.toList_injective (List.ext_getElem ?_ fun x hx hx' => ?_)
  · simp [Terrain.rows, glyphRows, hw, hlength]
  · have hchar : charAt rows x y = some rows[y].toList[x] := by simp [charAt, hy', hx']
    have hin : (picture rows).inBounds x y = true := decide_eq_true (by omega)
    have hwalk := walkableAt_picture hwidth hrows x y
    rw [hin, Bool.true_and, Int.toNat_natCast, Int.toNat_natCast, hchar] at hwalk
    simp only [Terrain.rows, glyphRows, List.getElem_map, List.getElem_range, String.toList_ofList, hwalk]
    exact glyph_beq (hglyphs _ (List.getElem_mem hx'))

theorem shows_picture (hwidth : widthOf rows < 2 ^ 32) (hheight : rows.length < 2 ^ 32)
    (hrows : ∀ row ∈ rows, IsRow (widthOf rows) row) : (picture rows).Shows rows where
  width := toNat_width_picture hwidth
  height := toNat_height_picture hheight
  walkableAt_iff x y := by rw [walkableAt_picture hwidth hrows, Bool.and_eq_true, beq_iff_eq]
  rows := rows_picture hwidth hheight hrows

/-! ## Reading -/

theorem ofMapData_eq_ok_iff {width height : UInt32} : ofMapData ⟨width, height, rows⟩ = .ok t ↔
    ofRows rows = .ok t ∧ t.width = width ∧ height.toNat = rows.length := by
  unfold ofMapData
  by_cases hheight : rows.length = height.toNat
  · cases hread : ofRows rows with
    | error e => simp [hheight, bind, Except.bind]
    | ok u =>
      by_cases hwidth : u.width = width
      · simp only [hheight, hwidth, bind, Except.bind, pure, Except.pure, ne_eq, not_true_eq_false, if_false,
          Except.ok.injEq, and_true]
        exact ⟨fun h => ⟨h, h ▸ hwidth⟩, And.left⟩
      · simp only [hheight, hwidth, bind, Except.bind, throw, throwThe, MonadExceptOf.throw, ne_eq, not_true_eq_false,
          not_false_eq_true, if_true, if_false, Except.ok.injEq, and_true]
        refine ⟨nofun, fun h => ?_⟩
        exact absurd (h.1 ▸ h.2) hwidth
  · simp [hheight, Ne.symm hheight, bind, Except.bind, throw, throwThe, MonadExceptOf.throw]

theorem height_pos_of_width_pos (h : 0 < widthOf rows) : 0 < rows.length := by
  cases rows with
  | nil => exact absurd h (by decide)
  | cons row rows => exact Nat.succ_pos _

section

variable (hwidth : widthOf rows < 2 ^ 32) (hheight : rows.length < 2 ^ 32)

include hwidth hheight

theorem ofRows_eq_ok_iff_isMap : ofRows rows = .ok t ↔ IsMap rows ∧ t = picture rows := by
  have hw := toNat_width_picture hwidth
  have hh := toNat_height_picture hheight
  rw [ofRows_eq_ok_iff]
  constructor
  · rintro ⟨⟨hpos, hpos'⟩, hrows, rfl⟩
    rw [UInt32.lt_iff_toNat_lt, hw] at hpos
    rw [UInt32.lt_iff_toNat_lt, hh] at hpos'
    exact ⟨⟨hpos, hpos', hrows⟩, rfl⟩
  · rintro ⟨hmap, rfl⟩
    rw [UInt32.lt_iff_toNat_lt, UInt32.lt_iff_toNat_lt, hw, hh]
    exact ⟨⟨hmap.width_pos, hmap.height_pos⟩, hmap.rows, rfl⟩

theorem ofRows_of_firstDefect (h : FirstDefect rows e) : ofRows rows = .error e := by
  rw [ofRows_eq]
  cases h with
  | empty hzero => rw [if_pos (Or.inl (by rw [hzero]; rfl)), hzero]; rfl
  | row hpos hdefect =>
    have hne : ∀ n : Nat, 0 < n → n < 2 ^ 32 → UInt32.ofNat n ≠ 0 := by
      intro n hn hlt hzero
      have := congrArg UInt32.toNat hzero
      rw [UInt32.toNat_ofNat_of_lt' hlt, UInt32.toNat_zero] at this
      omega
    rw [if_neg (not_or.mpr ⟨hne _ hpos hwidth, hne _ (height_pos_of_width_pos hpos) hheight⟩),
      readRows_of_defect hdefect]
    rfl

omit hwidth hheight in
/-- Rows that are no map have a first defect. -/
theorem exists_firstDefect (h : ¬ IsMap rows) : ∃ e, FirstDefect rows e := by
  rcases Nat.eq_zero_or_pos (widthOf rows) with hzero | hpos
  · exact ⟨_, .empty hzero⟩
  · have hrows : ¬ ∀ row ∈ rows, IsRow (widthOf rows) row := fun hrows =>
      h ⟨hpos, height_pos_of_width_pos hpos, hrows⟩
    obtain ⟨e, he⟩ := exists_rowDefect hrows 0
    exact ⟨e, .row hpos he⟩

theorem ofRows_eq_error_iff : ofRows rows = .error e ↔ FirstDefect rows e := by
  refine ⟨fun h => ?_, ofRows_of_firstDefect hwidth hheight⟩
  have hmap : ¬ IsMap rows := fun hmap => by
    rw [(ofRows_eq_ok_iff_isMap hwidth hheight).mpr ⟨hmap, rfl⟩] at h
    cases h
  obtain ⟨e', he⟩ := exists_firstDefect hmap
  rw [ofRows_of_firstDefect hwidth hheight he, Except.error.injEq] at h
  exact h ▸ he

end

/-- **Reading a map.** Rows of which neither side is too long are read just if they are a map, and else their first
defect is the error.  The terrain shows the map tile by tile, and no other map gives the same terrain.  A map with a
declared size is read just if it has this size. -/
theorem ofRows_exact {rows : List String} (hwidth : widthOf rows < 2 ^ 32) (hheight : rows.length < 2 ^ 32) :
    ((∃ t, ofRows rows = .ok t) ↔ IsMap rows) ∧
      (∀ t, ofRows rows = .ok t → t.Shows rows ∧
        ∀ other, widthOf other < 2 ^ 32 → other.length < 2 ^ 32 → ofRows other = .ok t → other = rows) ∧
      (∀ e, ofRows rows = .error e ↔ FirstDefect rows e) ∧
      ∀ width height t, ofMapData ⟨width, height, rows⟩ = .ok t ↔
        ofRows rows = .ok t ∧ width.toNat = widthOf rows ∧ height.toNat = rows.length := by
  have hread := fun t => ofRows_eq_ok_iff_isMap hwidth hheight (t := t)
  refine ⟨⟨fun ⟨t, ht⟩ => ((hread t).mp ht).1, fun hmap => ⟨_, (hread _).mpr ⟨hmap, rfl⟩⟩⟩, fun t ht => ?_,
    fun e => ofRows_eq_error_iff hwidth hheight, fun width height t => ?_⟩
  · obtain ⟨hmap, rfl⟩ := (hread t).mp ht
    refine ⟨shows_picture hwidth hheight hmap.rows, fun other hwidth' hheight' hother => ?_⟩
    obtain ⟨hmap', hsame⟩ := (ofRows_eq_ok_iff_isMap hwidth' hheight').mp hother
    calc other = (picture other).rows := (rows_picture hwidth' hheight' hmap'.rows).symm
      _ = (picture rows).rows := by rw [hsame]
      _ = rows := rows_picture hwidth hheight hmap.rows
  · rw [ofMapData_eq_ok_iff, and_congr_right_iff]
    intro ht
    obtain ⟨-, rfl⟩ := (hread t).mp ht
    rw [← toNat_width_picture hwidth, UInt32.toNat_inj, eq_comm (a := width)]

/-- Two rows of three tiles are read; of three rows with a stray letter and a short row below it, the letter is the
error. -/
theorem ofRows_exact_oblong :
    (∃ t, ofRows [".#.", "..#"] = .ok t ∧ t.Shows [".#.", "..#"]) ∧
      ofRows ["..", ".é", "#"] = .error (.glyph 'é' 1 1) := by
  obtain ⟨hread, hshows, -, -⟩ := @ofRows_exact [".#.", "..#"] (by decide) (by decide)
  obtain ⟨-, -, herror, -⟩ := @ofRows_exact ["..", ".é", "#"] (by decide) (by decide)
  obtain ⟨t, ht⟩ := hread.mpr ⟨by decide, by decide, by decide⟩
  refine ⟨⟨t, ht, (hshows t ht).1⟩, (herror _).mpr (.row (by decide) ?_)⟩
  exact RowDefect.glyph (rfl : _ = [".."] ++ ".é" :: ["#"]) (by decide) (by decide)
    (by decide : ".é".toList = ['.'] ++ 'é' :: []) (List.forall_mem_singleton.mpr (.inl rfl)) (by decide)

end Terrain

end TileRealm
