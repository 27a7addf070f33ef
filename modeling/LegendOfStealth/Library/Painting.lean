import LegendOfStealth.Library.Pipeline

/-!
# Painting cells

What a list of draw and clear calls makes of one cell of a surface.  Marking the stencil
with some primitives and drawing with the marks masked out leaves the cells that a
primitive covers as they were.
-/

namespace LegendOfStealth.Library.Pipeline

universe u v w x

/-- A place of a surface: its colour and its stencil. -/
structure Cell (Color : Type w) where
  color : Color
  stencil : BitVec 8
  deriving DecidableEq

/-- What a device makes of primitives: which cells they cover, the colour of a fragment, and
how the colours of a fragment and a cell are blended. -/
structure Device (Matrix : Type u) (Vertex : Type v) (Color : Type w) (Pixel : Type x) where
  covers : Matrix → Mode → List Vertex → Pixel → Bool
  fragment : Draw Matrix Vertex Color → Pixel → Color
  blend : Factor × Factor → Color → Color → Color

/-- Four vertices at a time; what is left at the end is ignored. -/
def quadsOf {Vertex : Type v} : List Vertex → List (List Vertex)
  | first :: second :: third :: fourth :: rest =>
      [first, second, third, fourth] :: quadsOf rest
  | _ => []

theorem quadsOf_flatMap {Vertex : Type v} {α : Type x} {vertices : α → List Vertex}
    (four : ∀ element, ∃ first second third fourth,
      vertices element = [first, second, third, fourth]) (elements : List α) :
    quadsOf (elements.flatMap vertices) = elements.map vertices := by
  induction elements with
  | nil => rfl
  | cons element rest ih =>
      obtain ⟨first, second, third, fourth, shape⟩ := four element
      rw [List.flatMap_cons, List.map_cons, shape, ← ih]
      rfl

section Paint

variable {Matrix : Type u} {Vertex : Type v} {Color : Type w} {Pixel : Type x}

/-- The primitives of a draw call. -/
def Draw.primitives (call : Draw Matrix Vertex Color) : List (List Vertex) :=
  if call.mode = .quads then quadsOf call.vertices else [call.vertices]

/-- Some primitive of a draw call covers a pixel. -/
def Draw.covers (device : Device Matrix Vertex Color Pixel) (pixel : Pixel)
    (call : Draw Matrix Vertex Color) : Bool :=
  call.primitives.any fun primitive => device.covers call.matrix call.mode primitive pixel

/-- The colour of a cell after a fragment. -/
def Draw.blended (device : Device Matrix Vertex Color Pixel) (pixel : Pixel)
    (call : Draw Matrix Vertex Color) (color : Color) : Color :=
  device.blend call.blend (device.fragment call pixel) color

/-- A cell after one fragment of a draw call. -/
def Draw.shade (device : Device Matrix Vertex Color Pixel) (pixel : Pixel)
    (call : Draw Matrix Vertex Color) (cell : Cell Color) : Cell Color :=
  match call.stencil with
  | none => { cell with color := call.blended device pixel cell.color }
  | some stencil =>
      if stencil.test cell.stencil then
        ⟨call.blended device pixel cell.color, stencil.pass.apply stencil.ref cell.stencil⟩
      else { cell with stencil := stencil.fail.apply stencil.ref cell.stencil }

/-- A cell after a draw call: each primitive that covers it makes a fragment. -/
def Draw.paint (device : Device Matrix Vertex Color Pixel) (pixel : Pixel)
    (call : Draw Matrix Vertex Color) (cell : Cell Color) : Cell Color :=
  call.primitives.foldl
    (fun cell primitive =>
      if device.covers call.matrix call.mode primitive pixel then call.shade device pixel cell
      else cell)
    cell

/-- A cell of a surface after an event.  Events on other surfaces do not concern it. -/
def Event.paint (device : Device Matrix Vertex Color Pixel) (target : Nat) (pixel : Pixel)
    (cell : Cell Color) : Event Matrix Vertex Color → Cell Color
  | .clear surface color stencil =>
      if surface = target then
        ⟨color.getD cell.color, if stencil then 0 else cell.stencil⟩
      else cell
  | .draw call => if call.target = target then call.paint device pixel cell else cell

/-- A cell of a surface after some events. -/
def paint (device : Device Matrix Vertex Color Pixel) (target : Nat) (pixel : Pixel)
    (events : List (Event Matrix Vertex Color)) (cell : Cell Color) : Cell Color :=
  events.foldl (fun cell event => event.paint device target pixel cell) cell

variable (device : Device Matrix Vertex Color Pixel) (target : Nat) (pixel : Pixel)

/-- Only the primitives that cover a cell concern it. -/
theorem paint_eq_foldl_filter (call : Draw Matrix Vertex Color) (cell : Cell Color) :
    call.paint device pixel cell =
      (call.primitives.filter fun primitive =>
          device.covers call.matrix call.mode primitive pixel).foldl
        (fun cell _ => call.shade device pixel cell) cell :=
  List.foldl_filter.symm

@[simp]
theorem paint_nil (cell : Cell Color) : paint device target pixel [] cell = cell :=
  rfl

@[simp]
theorem paint_cons (event : Event Matrix Vertex Color) (rest : List (Event Matrix Vertex Color))
    (cell : Cell Color) :
    paint device target pixel (event :: rest) cell =
      paint device target pixel rest (event.paint device target pixel cell) :=
  rfl

@[simp]
theorem paint_append (first second : List (Event Matrix Vertex Color)) (cell : Cell Color) :
    paint device target pixel (first ++ second) cell =
      paint device target pixel second (paint device target pixel first cell) :=
  List.foldl_append

/-- If a property holds before the commands of every element, and under it the commands of
each turn a cell over, then those of all turn it over one element after the other. -/
theorem paint_events_flatMap [Mul Matrix] [One Matrix] {α : Type*} {buffers : Nat → List Vertex}
    {property : Context Matrix Vertex Color → Prop}
    {commands : α → List (Command Matrix Vertex Color)} {turn : α → Cell Color → Cell Color}
    {elements : List α}
    (turns : ∀ element ∈ elements, ∀ context, property context →
      property (after (commands element) context) ∧
        ∀ cell, paint device target pixel (events buffers (commands element) context) cell =
          turn element cell)
    {context : Context Matrix Vertex Color} (initially : property context) (cell : Cell Color) :
    paint device target pixel (events buffers (elements.flatMap commands) context) cell =
      elements.foldl (fun cell element => turn element cell) cell := by
  induction elements generalizing context cell with
  | nil => rfl
  | cons element rest ih =>
      obtain ⟨still, turned⟩ := turns element List.mem_cons_self context initially
      rw [List.flatMap_cons, events_append, paint_append, turned, List.foldl_cons]
      exact ih (fun other member => turns other (List.mem_cons_of_mem _ member)) still _

/-! ## Marks -/

/-- The stencil test that draws nothing and marks what is covered. -/
def Stencil.Marks (stencil : Stencil) : Prop :=
  stencil.comparison = .never ∧ stencil.fail = .replace

/-- The stencil test that draws outside the marks and leaves them as they are. -/
def Stencil.Masks (stencil : Stencil) : Prop :=
  stencil.comparison = .notEqual ∧ stencil.fail = .keep ∧ stencil.pass = .keep

section Marks

variable {device : Device Matrix Vertex Color Pixel} {pixel : Pixel}
  {call : Draw Matrix Vertex Color} {stencil : Stencil}

/-- Marking leaves the colour and replaces the stencil of the cells that are covered. -/
theorem paint_of_marks (under : call.stencil = some stencil) (marks : stencil.Marks)
    (cell : Cell Color) :
    call.paint device pixel cell =
      ⟨cell.color, if call.covers device pixel then stencil.ref else cell.stencil⟩ := by
  have shade (cell : Cell Color) : call.shade device pixel cell = ⟨cell.color, stencil.ref⟩ := by
    simp [Draw.shade, under, Stencil.test, Comparison.holds, StencilAction.apply, marks.1, marks.2]
  rw [Draw.paint, Draw.covers]
  induction call.primitives generalizing cell with
  | nil => rfl
  | cons primitive rest ih =>
      rw [List.foldl_cons, ih, List.any_cons]
      cases device.covers call.matrix call.mode primitive pixel with
      | true => simp [shade]
      | false => simp

/-- One primitive under a mask: the cell is blended if it is covered and not marked. -/
theorem paint_of_masks (under : call.stencil = some stencil) (masks : stencil.Masks)
    {primitive : List Vertex} (single : call.primitives = [primitive]) (cell : Cell Color) :
    call.paint device pixel cell =
      ⟨if call.covers device pixel ∧ stencil.ref &&& stencil.mask ≠ cell.stencil &&& stencil.mask
        then call.blended device pixel cell.color else cell.color, cell.stencil⟩ := by
  obtain ⟨comparison, fail, pass⟩ := masks
  rw [Draw.paint, Draw.covers, single, List.foldl_cons, List.foldl_nil, List.any_cons,
    List.any_nil, Bool.or_false]
  cases device.covers call.matrix call.mode primitive pixel with
  | false => simp
  | true =>
      rw [if_pos rfl, Draw.shade, under]
      simp only [Stencil.test, comparison, Comparison.holds, fail, pass, StencilAction.apply]
      by_cases marked : stencil.ref &&& stencil.mask = cell.stencil &&& stencil.mask
      · simp [marked]
      · simp [marked]

/-- Without a texture and a program a fragment has the current colour. -/
def Device.Flat (device : Device Matrix Vertex Color Pixel) : Prop :=
  ∀ call pixel, call.texture = none → call.program = 0 → device.fragment call pixel = call.color

theorem paint_of_flat (flat : device.Flat) (free : call.stencil = none)
    {primitive : List Vertex} (single : call.primitives = [primitive])
    (untextured : call.texture = none) (unprogrammed : call.program = 0) (cell : Cell Color) :
    (call.paint device pixel cell).color =
      if device.covers call.matrix call.mode primitive pixel then
        device.blend call.blend call.color cell.color
      else cell.color := by
  rw [Draw.paint, single, List.foldl_cons, List.foldl_nil, Draw.shade, free, Draw.blended,
    flat call pixel untextured unprogrammed]
  split
  · rfl
  · rfl

end Marks

end Paint

end LegendOfStealth.Library.Pipeline
