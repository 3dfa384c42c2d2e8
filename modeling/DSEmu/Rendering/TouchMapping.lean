import Mathlib.Algebra.Order.Floor.Semiring
import Mathlib.Data.Rat.Floor
import Mathlib.Tactic.FieldSimp
import Mathlib.Tactic.Linarith
import Mathlib.Tactic.NormNum
import Mathlib.Tactic.Positivity
import Mathlib.Tactic.Ring

/-!
# Touches and what is drawn

`mapTouchToDS` of `DSEmu/Rendering/DSScreenView.swift`, and what the quad of
`DSEmu/Rendering/MetalRenderer.swift` shows, in exact arithmetic. `Shows drawable point pixel` says
that a triangle of the quad covers the point of the drawable and that the nearest sample of the
texture there is the pixel; a triangle covers what it is the weighted mean of its corners.

Both sides come down to one thing: the texture coordinates at a point of the drawable are its place
in the viewport, from 0 to 1 (`covers_iff`), and the viewport is the rectangle that a touch is
mapped from, scaled.
-/

namespace DSEmu

/-- A point, in exact arithmetic. -/
structure CGPoint where
  x : ℚ
  y : ℚ

/-- A size, in exact arithmetic. -/
structure CGSize where
  width : ℚ
  height : ℚ

/-- A rectangle of positive size. -/
structure CGRect where
  x : ℚ
  y : ℚ
  width : ℚ
  height : ℚ

/-- `CGRect.contains(_:)`: the left and top edges belong to the rectangle. -/
def CGRect.Contains (r : CGRect) (point : CGPoint) : Prop :=
  r.x ≤ point.x ∧ point.x < r.x + r.width ∧ r.y ≤ point.y ∧ point.y < r.y + r.height

instance (r : CGRect) (point : CGPoint) : Decidable (r.Contains point) :=
  inferInstanceAs (Decidable (_ ∧ _))

/-- A point in pixels. -/
def CGPoint.scale (s : ℚ) (point : CGPoint) : CGPoint := ⟨point.x * s, point.y * s⟩

/-- A size in pixels. -/
def CGSize.scale (s : ℚ) (size : CGSize) : CGSize := ⟨size.width * s, size.height * s⟩

/-- A rectangle in pixels. -/
def CGRect.scale (s : ℚ) (r : CGRect) : CGRect := ⟨r.x * s, r.y * s, r.width * s, r.height * s⟩

/-! ### `mapTouchToDS` -/

namespace DSScreenView

/-- The aspect of a screen of the DS. -/
def dsAspect : ℚ := 256 / 192

/-- `renderRect`. -/
def renderRect (viewSize : CGSize) : CGRect :=
  if viewSize.width / viewSize.height > dsAspect then
    -- Pillarboxed
    let renderWidth := viewSize.height * dsAspect
    ⟨(viewSize.width - renderWidth) / 2, 0, renderWidth, viewSize.height⟩
  else
    -- Letterboxed
    let renderHeight := viewSize.width / dsAspect
    ⟨0, (viewSize.height - renderHeight) / 2, viewSize.width, renderHeight⟩

/-- `normalX` and `normalY`. -/
def normal (r : CGRect) (point : CGPoint) : ℚ × ℚ :=
  ((point.x - r.x) / r.width, (point.y - r.y) / r.height)

/-- `UInt16.init(_:)`, of a number that is not negative. -/
def truncate (value : ℚ) : UInt16 := .ofNat ⌊value⌋₊

/-- `mapTouchToDS(point:)`, in a view of a size. -/
def mapTouchToDS (viewSize : CGSize) (point : CGPoint) : Option (UInt16 × UInt16) :=
  if viewSize.width > 0 ∧ viewSize.height > 0 then
    let r := renderRect viewSize
    if r.Contains point then
      let (normalX, normalY) := normal r point
      let dsX := truncate (max 0 (min 255 (normalX * 256)))
      let dsY := truncate (max 0 (min 191 (normalY * 192)))
      some (dsX, dsY)
    else none
  else none

end DSScreenView

/-! ### What is drawn -/

namespace MetalRenderer

/-- The width of a screen of the DS. -/
def dsWidth : ℕ := 256

/-- The height of a screen of the DS. -/
def dsHeight : ℕ := 192

/-- The viewport that `draw()` sets. -/
def viewport (drawable : CGSize) : CGRect :=
  let dsAspect : ℚ := dsWidth / dsHeight
  if drawable.width / drawable.height > dsAspect then
    let vpW := drawable.height * dsAspect
    ⟨(drawable.width - vpW) / 2, 0, vpW, drawable.height⟩
  else
    let vpH := drawable.width / dsAspect
    ⟨0, (drawable.height - vpH) / 2, drawable.width, vpH⟩

/-- A vertex of the quad, as the vertex shader splits it. -/
structure Vertex where
  x : ℚ
  y : ℚ
  u : ℚ
  v : ℚ

/-- The first vertex. -/
def topLeft : Vertex := ⟨-1, 1, 0, 0⟩

/-- The second vertex. -/
def bottomLeft : Vertex := ⟨-1, -1, 0, 1⟩

/-- The third vertex. -/
def topRight : Vertex := ⟨1, 1, 1, 0⟩

/-- The fourth vertex. -/
def bottomRight : Vertex := ⟨1, -1, 1, 1⟩

/-- The quad that is drawn. -/
def vertices : List Vertex := [topLeft, bottomLeft, topRight, bottomRight]

/-- The triangles of a strip: every three vertices in a row. -/
def triangleStrip : List Vertex → List (Vertex × Vertex × Vertex)
  | a :: b :: c :: rest => (a, b, c) :: triangleStrip (b :: c :: rest)
  | _ => []

/-- The viewport transform, which turns the vertical axis around. -/
def toDrawable (viewport : CGRect) (vertex : Vertex) : CGPoint :=
  ⟨viewport.x + (vertex.x + 1) / 2 * viewport.width,
    viewport.y + (1 - vertex.y) / 2 * viewport.height⟩

/-- A triangle covers a point of the drawable, where it has the texture coordinates `u` and `v`: the
point is a weighted mean of the corners, and the coordinates are the same mean. -/
def Covers (viewport : CGRect) (triangle : Vertex × Vertex × Vertex) (point : CGPoint) (u v : ℚ) :
    Prop :=
  let (a, b, c) := triangle
  ∃ α β γ : ℚ, 0 ≤ α ∧ 0 ≤ β ∧ 0 ≤ γ ∧ α + β + γ = 1 ∧
    point.x = α * (toDrawable viewport a).x + β * (toDrawable viewport b).x +
      γ * (toDrawable viewport c).x ∧
    point.y = α * (toDrawable viewport a).y + β * (toDrawable viewport b).y +
      γ * (toDrawable viewport c).y ∧
    u = α * a.u + β * b.u + γ * c.u ∧ v = α * a.v + β * b.v + γ * c.v

/-- The texel that the nearest filter picks, with `clampToEdge`. -/
def nearest (size : ℕ) (coordinate : ℚ) : ℕ := min (size - 1) ⌊coordinate * size⌋₊

/-- The drawable shows a pixel of the texture at a point. -/
def Shows (drawable : CGSize) (point : CGPoint) (pixel : ℕ × ℕ) : Prop :=
  ∃ triangle ∈ triangleStrip vertices, ∃ u v, Covers (viewport drawable) triangle point u v ∧
    pixel = (nearest dsWidth u, nearest dsHeight v)

end MetalRenderer

/-! ### The rectangle and the viewport -/

namespace CGRect

/-- A rectangle contains what it contains at another scale. -/
theorem contains_scale {s : ℚ} (hs : 0 < s) (r : CGRect) (point : CGPoint) :
    (r.scale s).Contains (point.scale s) ↔ r.Contains point := by
  unfold Contains scale CGPoint.scale
  rw [← add_mul, ← add_mul, mul_le_mul_iff_left₀ hs, mul_lt_mul_iff_left₀ hs,
    mul_le_mul_iff_left₀ hs, mul_lt_mul_iff_left₀ hs]

end CGRect

open DSScreenView MetalRenderer

/-- The viewport of a scaled view is the rectangle that its touches are mapped from, scaled. -/
theorem viewport_scale {s : ℚ} (hs : 0 < s) (size : CGSize) :
    viewport (size.scale s) = (renderRect size).scale s := by
  have haspect : (dsWidth : ℚ) / dsHeight = dsAspect := by
    unfold dsWidth dsHeight dsAspect
    norm_num
  have hratio : (size.scale s).width / (size.scale s).height = size.width / size.height :=
    mul_div_mul_right size.width size.height hs.ne'
  unfold viewport renderRect
  simp only [haspect, hratio]
  split
  · simp only [CGSize.scale, CGRect.scale, CGRect.mk.injEq]
    exact ⟨by ring, by ring, by ring, trivial⟩
  · simp only [CGSize.scale, CGRect.scale, CGRect.mk.injEq]
    exact ⟨by ring, by ring, trivial, by ring⟩

/-- A view that is not empty has a picture that is not empty. -/
theorem renderRect_pos {size : CGSize} (hw : 0 < size.width) (hh : 0 < size.height) :
    0 < (renderRect size).width ∧ 0 < (renderRect size).height := by
  have haspect : 0 < dsAspect := by
    unfold dsAspect
    norm_num
  unfold renderRect
  split
  · exact ⟨mul_pos hh haspect, hh⟩
  · exact ⟨hw, div_pos hw haspect⟩

/-- The place of a point in a rectangle does not depend on the scale. -/
theorem normal_scale {s : ℚ} (hs : 0 < s) (r : CGRect) (point : CGPoint) :
    normal (r.scale s) (point.scale s) = normal r point := by
  unfold normal CGRect.scale CGPoint.scale
  rw [← sub_mul, ← sub_mul, mul_div_mul_right _ _ hs.ne', mul_div_mul_right _ _ hs.ne']

/-- A rectangle contains the points whose place in it is from 0 to 1. -/
theorem contains_iff_normal {r : CGRect} (hw : 0 < r.width) (hh : 0 < r.height) (point : CGPoint) :
    r.Contains point ↔ 0 ≤ (normal r point).1 ∧ (normal r point).1 < 1 ∧
      0 ≤ (normal r point).2 ∧ (normal r point).2 < 1 := by
  show _ ↔ 0 ≤ (point.x - r.x) / r.width ∧ (point.x - r.x) / r.width < 1 ∧
    0 ≤ (point.y - r.y) / r.height ∧ (point.y - r.y) / r.height < 1
  rw [le_div_iff₀ hw, le_div_iff₀ hh, zero_mul, zero_mul, div_lt_one hw, div_lt_one hh, sub_nonneg,
    sub_nonneg, sub_lt_iff_lt_add', sub_lt_iff_lt_add']
  rfl

/-! ### The texture coordinates -/

/-- The quad shows at a vertex what its texture coordinates say. -/
theorem toDrawable_eq {vertex : Vertex} (hvertex : vertex ∈ vertices) (r : CGRect) :
    toDrawable r vertex = ⟨r.x + vertex.u * r.width, r.y + vertex.v * r.height⟩ := by
  unfold vertices at hvertex
  simp only [List.mem_cons, List.not_mem_nil, or_false] at hvertex
  rcases hvertex with rfl | rfl | rfl | rfl <;>
    norm_num [toDrawable, topLeft, bottomLeft, topRight, bottomRight]

/-- Where a triangle covers a point, the texture coordinates are the place of the point in the
viewport. -/
theorem normal_of_covers {r : CGRect} (hw : 0 < r.width) (hh : 0 < r.height)
    {triangle : Vertex × Vertex × Vertex} (htriangle : triangle ∈ triangleStrip vertices)
    {point : CGPoint} {u v : ℚ} (h : Covers r triangle point u v) : (u, v) = normal r point := by
  have hcorners : triangle.1 ∈ vertices ∧ triangle.2.1 ∈ vertices ∧ triangle.2.2 ∈ vertices := by
    simp only [triangleStrip, vertices, List.mem_cons, List.not_mem_nil, or_false] at htriangle ⊢
    rcases htriangle with rfl | rfl <;> simp
  obtain ⟨a, b, c⟩ := triangle
  obtain ⟨ha, hb, hc⟩ := hcorners
  obtain ⟨α, β, γ, -, -, -, hsum, hx, hy, rfl, rfl⟩ := h
  rw [toDrawable_eq ha, toDrawable_eq hb, toDrawable_eq hc] at hx hy
  have hx' : point.x - r.x = (α * a.u + β * b.u + γ * c.u) * r.width := by
    calc point.x - r.x = (α + β + γ) * r.x + (α * a.u + β * b.u + γ * c.u) * r.width - r.x := by
          rw [hx]; ring
      _ = (α * a.u + β * b.u + γ * c.u) * r.width := by rw [hsum]; ring
  have hy' : point.y - r.y = (α * a.v + β * b.v + γ * c.v) * r.height := by
    calc point.y - r.y = (α + β + γ) * r.y + (α * a.v + β * b.v + γ * c.v) * r.height - r.y := by
          rw [hy]; ring
      _ = (α * a.v + β * b.v + γ * c.v) * r.height := by rw [hsum]; ring
  unfold normal
  rw [hx', hy', mul_div_cancel_right₀ _ hw.ne', mul_div_cancel_right₀ _ hh.ne']

/-- One of the two triangles covers a point of the viewport: the first one the points left above the
diagonal from the bottom left to the top right, the second one the other points. -/
theorem exists_covers {r : CGRect} (hw : 0 < r.width) (hh : 0 < r.height) {point : CGPoint}
    (h : r.Contains point) : ∃ triangle ∈ triangleStrip vertices,
      Covers r triangle point (normal r point).1 (normal r point).2 := by
  obtain ⟨hu0, hu1, hv0, hv1⟩ := (contains_iff_normal hw hh point).mp h
  have hx : point.x = r.x + (normal r point).1 * r.width := by
    unfold normal
    field_simp
    ring
  have hy : point.y = r.y + (normal r point).2 * r.height := by
    unfold normal
    field_simp
    ring
  generalize (normal r point).1 = u at *
  generalize (normal r point).2 = v at *
  -- the diagonal from the bottom left to the top right parts the two triangles of the strip
  by_cases hside : u + v ≤ 1
  · refine ⟨(topLeft, bottomLeft, topRight), by simp [triangleStrip, vertices],
      1 - u - v, v, u, by linarith, hv0, hu0, by ring, ?_, ?_, ?_, ?_⟩
    · rw [hx]; norm_num [toDrawable, topLeft, bottomLeft, topRight]; ring
    · rw [hy]; norm_num [toDrawable, topLeft, bottomLeft, topRight]; ring
    · norm_num [topLeft, bottomLeft, topRight]
    · norm_num [topLeft, bottomLeft, topRight]
  · refine ⟨(bottomLeft, topRight, bottomRight), by simp [triangleStrip, vertices],
      1 - u, 1 - v, u + v - 1, by linarith, by linarith, by linarith, by ring, ?_, ?_, ?_, ?_⟩
    · rw [hx]; norm_num [toDrawable, bottomRight, bottomLeft, topRight]; ring
    · rw [hy]; norm_num [toDrawable, bottomRight, bottomLeft, topRight]; ring
    · norm_num [bottomRight, bottomLeft, topRight]
    · norm_num [bottomRight, bottomLeft, topRight]

/-- At a point of the viewport the quad shows the texel at the place of the point. -/
theorem shows_iff {drawable : CGSize} (hw : 0 < (viewport drawable).width)
    (hh : 0 < (viewport drawable).height) {point : CGPoint}
    (h : (viewport drawable).Contains point) (pixel : ℕ × ℕ) :
    Shows drawable point pixel ↔ pixel = (nearest dsWidth (normal (viewport drawable) point).1,
      nearest dsHeight (normal (viewport drawable) point).2) := by
  constructor
  · rintro ⟨triangle, htriangle, u, v, hcovers, rfl⟩
    rw [← normal_of_covers hw hh htriangle hcovers]
  · rintro rfl
    obtain ⟨triangle, htriangle, hcovers⟩ := exists_covers hw hh h
    exact ⟨triangle, htriangle, _, _, hcovers, rfl⟩

/-! ### The pixel of a touch -/

/-- The clamp below an integer does not change the integer part. -/
theorem floor_clamp {n : ℕ} {value : ℚ} (h0 : 0 ≤ value) (h1 : value < n + 1) :
    ⌊max 0 (min (n : ℚ) value)⌋₊ = ⌊value⌋₊ := by
  rcases le_or_gt value n with hle | hgt
  · rw [min_eq_right hle, max_eq_right h0]
  · have hfloor : ⌊value⌋₊ = n := (Nat.floor_eq_iff h0).mpr ⟨hgt.le, h1⟩
    rw [min_eq_left hgt.le, max_eq_right (Nat.cast_nonneg n), Nat.floor_natCast, hfloor]

/-- The integer part of a place from 0 to 1 in a row of pixels. -/
theorem floor_lt {place : ℚ} (n : ℕ) (hn : 0 < n) (h0 : 0 ≤ place) (h1 : place < 1) :
    ⌊place * n⌋₊ < n := by
  have hpos : (0 : ℚ) < n := Nat.cast_pos.mpr hn
  rw [Nat.floor_lt (mul_nonneg h0 hpos.le)]
  calc place * n < 1 * n := mul_lt_mul_of_pos_right h1 hpos
    _ = n := one_mul _

/-- The conversion to an integer rounds down. -/
theorem toNat_truncate {value : ℚ} (h : ⌊value⌋₊ < 65536) : (truncate value).toNat = ⌊value⌋₊ := by
  unfold truncate
  rw [UInt16.toNat_ofNat', Nat.mod_eq_of_lt h]

/-- A touch in the rectangle is mapped to the integer parts of its place, and no clamp changes
them. -/
theorem mapTouchToDS_of_contains {size : CGSize} (hw : 0 < size.width) (hh : 0 < size.height)
    {point : CGPoint} (h : (renderRect size).Contains point) :
    mapTouchToDS size point = some (truncate ((normal (renderRect size) point).1 * 256),
      truncate ((normal (renderRect size) point).2 * 192)) := by
  obtain ⟨hpw, hph⟩ := renderRect_pos hw hh
  obtain ⟨hu0, hu1, hv0, hv1⟩ := (contains_iff_normal hpw hph point).mp h
  have hx : ⌊max 0 (min (255 : ℚ) ((normal (renderRect size) point).1 * 256))⌋₊ =
      ⌊(normal (renderRect size) point).1 * 256⌋₊ :=
    floor_clamp (n := 255) (by linarith) (by push_cast; linarith)
  have hy : ⌊max 0 (min (191 : ℚ) ((normal (renderRect size) point).2 * 192))⌋₊ =
      ⌊(normal (renderRect size) point).2 * 192⌋₊ :=
    floor_clamp (n := 191) (by linarith) (by push_cast; linarith)
  unfold mapTouchToDS
  rw [if_pos ⟨hw, hh⟩]
  simp only [h, if_true]
  unfold truncate
  rw [hx, hy]

/-- A touch outside of the picture is none. -/
theorem mapTouchToDS_of_not_contains {size : CGSize} {point : CGPoint}
    (h : ¬ (renderRect size).Contains point) : mapTouchToDS size point = none := by
  unfold mapTouchToDS
  simp only [h, if_false, ite_self]

/-- The integer parts are those of the nearest texel. -/
theorem toNat_truncate_eq_nearest {size : CGSize} (hw : 0 < size.width) (hh : 0 < size.height)
    {point : CGPoint} (h : (renderRect size).Contains point) :
    ((truncate ((normal (renderRect size) point).1 * 256)).toNat =
        nearest dsWidth (normal (renderRect size) point).1 ∧
      nearest dsWidth (normal (renderRect size) point).1 ≤ 255) ∧
    (truncate ((normal (renderRect size) point).2 * 192)).toNat =
        nearest dsHeight (normal (renderRect size) point).2 ∧
      nearest dsHeight (normal (renderRect size) point).2 ≤ 191 := by
  obtain ⟨hpw, hph⟩ := renderRect_pos hw hh
  obtain ⟨hu0, hu1, hv0, hv1⟩ := (contains_iff_normal hpw hph point).mp h
  have hx : ⌊(normal (renderRect size) point).1 * (256 : ℕ)⌋₊ < 256 :=
    floor_lt 256 (by decide) hu0 hu1
  have hy : ⌊(normal (renderRect size) point).2 * (192 : ℕ)⌋₊ < 192 :=
    floor_lt 192 (by decide) hv0 hv1
  push_cast at hx hy
  unfold nearest dsWidth dsHeight
  push_cast
  rw [toNat_truncate (by omega), toNat_truncate (by omega)]
  omega

/-- What holds of a touch at a point of a view, at a scale. -/
structure InvertsDrawing (viewSize : CGSize) (s : ℚ) (point : CGPoint) : Prop where
  /-- A touch is mapped where its place in the drawable is in the viewport. -/
  inside : (mapTouchToDS viewSize point).isSome = true ↔
    (viewport (viewSize.scale s)).Contains (point.scale s)
  /-- It is mapped to the pixel that is shown there. -/
  shown : ∀ x y, mapTouchToDS viewSize point = some (x, y) → x.toNat ≤ 255 ∧ y.toNat ≤ 191 ∧
    ∀ pixel, Shows (viewSize.scale s) (point.scale s) pixel ↔ pixel = (x.toNat, y.toNat)
  /-- The clamps do not change it. -/
  unclamped : ∀ x y, mapTouchToDS viewSize point = some (x, y) →
    x = truncate ((normal (renderRect viewSize) point).1 * 256) ∧
      y = truncate ((normal (renderRect viewSize) point).2 * 192)

/-- The touch is the pixel that is drawn under it, for every view and scale. -/
theorem invertsDrawing {viewSize : CGSize} (hw : 0 < viewSize.width) (hh : 0 < viewSize.height)
    {s : ℚ} (hs : 0 < s) (point : CGPoint) : InvertsDrawing viewSize s point := by
  have hviewport := viewport_scale hs viewSize
  obtain ⟨hpw, hph⟩ := renderRect_pos hw hh
  have hinside : (viewport (viewSize.scale s)).Contains (point.scale s) ↔
      (renderRect viewSize).Contains point := by
    rw [hviewport, CGRect.contains_scale hs]
  by_cases hcontains : (renderRect viewSize).Contains point
  · have hmap := mapTouchToDS_of_contains hw hh hcontains
    obtain ⟨⟨hx, hx255⟩, hy, hy191⟩ := toNat_truncate_eq_nearest hw hh hcontains
    constructor
    case inside =>
      rw [hmap, hinside]
      exact iff_of_true rfl hcontains
    case shown =>
      intro x y hxy
      obtain ⟨rfl, rfl⟩ := Prod.mk.inj (Option.some.inj (hmap.symm.trans hxy))
      rw [hx, hy]
      refine ⟨hx255, hy191, fun pixel => ?_⟩
      -- the drawing covers the touched point at the normal that the mapping truncates
      rw [shows_iff _ _ (hinside.mpr hcontains), hviewport, normal_scale hs]
      · rw [hviewport]; exact mul_pos hpw hs
      · rw [hviewport]; exact mul_pos hph hs
    case unclamped =>
      intro x y hxy
      obtain ⟨rfl, rfl⟩ := Prod.mk.inj (Option.some.inj (hmap.symm.trans hxy))
      exact ⟨rfl, rfl⟩
  · have hmap := mapTouchToDS_of_not_contains hcontains
    constructor
    case inside =>
      rw [hmap, hinside]
      exact iff_of_false nofun hcontains
    case shown => exact fun x y hxy => absurd (hmap.symm.trans hxy) nofun
    case unclamped => exact fun x y hxy => absurd (hmap.symm.trans hxy) nofun

/-- A touch at the middle of a pixel is mapped to it. -/
theorem exists_mapTouchToDS {viewSize : CGSize} (hw : 0 < viewSize.width) (hh : 0 < viewSize.height)
    {x y : ℕ} (hx : x < 256) (hy : y < 192) :
    ∃ point, mapTouchToDS viewSize point = some (.ofNat x, .ofNat y) := by
  obtain ⟨hpw, hph⟩ := renderRect_pos hw hh
  have hx' : (x : ℚ) + 1 ≤ 256 := by exact_mod_cast hx
  have hy' : (y : ℚ) + 1 ≤ 192 := by exact_mod_cast hy
  have hx0 : (0 : ℚ) ≤ x := Nat.cast_nonneg x
  have hy0 : (0 : ℚ) ≤ y := Nat.cast_nonneg y
  generalize hr : renderRect viewSize = r at *
  -- The centre of the pixel is mapped to it.
  have hnormal : normal r ⟨r.x + (x + 1 / 2) / 256 * r.width, r.y + (y + 1 / 2) / 192 * r.height⟩ =
      (((x : ℚ) + 1 / 2) / 256, ((y : ℚ) + 1 / 2) / 192) := by
    unfold normal
    simp only [add_sub_cancel_left, mul_div_cancel_right₀ _ hpw.ne',
      mul_div_cancel_right₀ _ hph.ne']
  have hfloor : ∀ n : ℕ, ⌊(n : ℚ) + 1 / 2⌋₊ = n := by
    intro n
    have hn : (0 : ℚ) ≤ n := Nat.cast_nonneg n
    rw [Nat.floor_eq_iff (by linarith)]
    exact ⟨by linarith, by linarith⟩
  have hcontains : r.Contains ⟨r.x + (x + 1 / 2) / 256 * r.width,
      r.y + (y + 1 / 2) / 192 * r.height⟩ := by
    rw [contains_iff_normal hpw hph, hnormal]
    refine ⟨by positivity, ?_, by positivity, ?_⟩
    · rw [div_lt_one (by norm_num)]; linarith
    · rw [div_lt_one (by norm_num)]; linarith
  refine ⟨_, (mapTouchToDS_of_contains hw hh (hr ▸ hcontains)).trans ?_⟩
  rw [hr, hnormal]
  unfold truncate
  rw [div_mul_cancel₀ _ (by norm_num : (256 : ℚ) ≠ 0),
    div_mul_cancel₀ _ (by norm_num : (192 : ℚ) ≠ 0), hfloor, hfloor]

/-- The mapping of touches is the inverse of what is drawn, for every size of the view and every
scale, and every pixel is touched somewhere. -/
theorem mapTouchToDS_inverts_drawing {viewSize : CGSize} (hw : 0 < viewSize.width)
    (hh : 0 < viewSize.height) {s : ℚ} (hs : 0 < s) :
    (∀ point, InvertsDrawing viewSize s point) ∧
      ∀ x y : ℕ, x < 256 → y < 192 →
        ∃ point, mapTouchToDS viewSize point = some (.ofNat x, .ofNat y) :=
  ⟨invertsDrawing hw hh hs, fun _ _ hx hy => exists_mapTouchToDS hw hh hx hy⟩

/-- A view that is wider than the screen of the console, on a display with three pixels to a
point. -/
theorem mapTouchToDS_inverts_drawing_pillarboxed :
    (∀ point, InvertsDrawing ⟨393, 200⟩ 3 point) ∧
      ∀ x y : ℕ, x < 256 → y < 192 →
        ∃ point, mapTouchToDS ⟨393, 200⟩ point = some (.ofNat x, .ofNat y) :=
  mapTouchToDS_inverts_drawing (by norm_num) (by norm_num) (by norm_num)

end DSEmu
