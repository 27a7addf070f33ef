import Mathlib.Data.List.Basic

/-!
# A fixed-function pipeline

Commands change a context, and a draw call takes all that it depends on from the context
in which it is made.  The events of a run are its draw and clear calls.  They are painted
on one cell of a surface at a time: a cell holds a colour and the bits of a stencil, and
what is drawn under a stencil that was marked before stays outside the marks.

Matrices, vertices and colours are arbitrary types, and so is what a device makes of them.
-/

namespace LegendOfStealth.Library.Pipeline

universe u v w x

/-- When a fragment passes the stencil test. -/
inductive Comparison
  | never
  | always
  | notEqual
  deriving DecidableEq

/-- The comparison of the reference with what is stored. -/
def Comparison.holds : Comparison → BitVec 8 → BitVec 8 → Bool
  | .never, _, _ => false
  | .always, _, _ => true
  | .notEqual, ref, stored => ref ≠ stored

/-- What happens to the stencil of a cell. -/
inductive StencilAction
  | keep
  | replace
  deriving DecidableEq

/-- The stencil after an action. -/
def StencilAction.apply : StencilAction → BitVec 8 → BitVec 8 → BitVec 8
  | .keep, _, stored => stored
  | .replace, ref, _ => ref

/-- The stencil test, with its actions when the test fails, when the depth test fails and
when both pass. -/
structure Stencil where
  comparison : Comparison
  ref : BitVec 8
  mask : BitVec 8
  fail : StencilAction
  depthFail : StencilAction
  pass : StencilAction
  deriving DecidableEq

/-- The test on what is stored. -/
def Stencil.test (stencil : Stencil) (stored : BitVec 8) : Bool :=
  stencil.comparison.holds (stencil.ref &&& stencil.mask) (stored &&& stencil.mask)

/-- The factors of blending. -/
inductive Factor
  | one
  | srcAlpha
  | oneMinusSrcAlpha
  | oneMinusDstAlpha
  deriving DecidableEq

/-- How vertices form primitives. -/
inductive Mode
  | lines
  | lineLoop
  | triangleFan
  | quads
  | polygon
  deriving DecidableEq

/-- What can be enabled. -/
inductive Capability
  | texture2D
  | stencilTest
  deriving DecidableEq

/-- The arrays that a draw call reads. -/
inductive ArrayName
  | vertexArray
  | textureCoordArray
  deriving DecidableEq

/-- The argument of a pointer command: elements in the memory of the program, or null. -/
inductive Pointer (Vertex : Type v) where
  | memory (elements : List Vertex)
  | null

/-- Where an array is read: in the memory of the program, or from the start of a buffer. -/
inductive Source (Vertex : Type v) where
  | nowhere
  | memory (elements : List Vertex)
  | buffer (name : Nat)
  deriving DecidableEq

/-- What there is to be read, given what the buffers hold. -/
def Source.elements {Vertex : Type v} (buffers : Nat → List Vertex) : Source Vertex → List Vertex
  | .nowhere => []
  | .memory elements => elements
  | .buffer name => buffers name

/-- An array that may be enabled. -/
structure ClientArray (Vertex : Type v) where
  enabled : Bool
  source : Source Vertex
  deriving DecidableEq

/-- The array has as many elements as are read, if it is enabled. -/
def ClientArray.Holds {Vertex : Type v} (buffers : Nat → List Vertex) (count : Nat)
    (array : ClientArray Vertex) : Prop :=
  array.enabled = true → count ≤ (array.source.elements buffers).length

instance {Vertex : Type v} (buffers : Nat → List Vertex) (count : Nat)
    (array : ClientArray Vertex) : Decidable (array.Holds buffers count) :=
  inferInstanceAs (Decidable (_ → _))

/-- Everything that commands set.  Names are natural numbers, and 0 names nothing. -/
structure Context (Matrix : Type u) (Vertex : Type v) (Color : Type w) where
  matrix : Matrix
  saved : List Matrix
  texture2D : Bool
  stencilTest : Bool
  texture : Nat
  buffer : Nat
  program : Nat
  framebuffer : Nat
  vertices : ClientArray Vertex
  texCoords : ClientArray Vertex
  stencil : Stencil
  blend : Factor × Factor
  color : Color
  clearColor : Color

/-- The commands.  A `call` is a function of another library. -/
inductive Command (Matrix : Type u) (Vertex : Type v) (Color : Type w) where
  | pushMatrix
  | popMatrix
  | loadIdentity
  | multMatrix (matrix : Matrix)
  | enable (capability : Capability)
  | disable (capability : Capability)
  | enableClientState (array : ArrayName)
  | disableClientState (array : ArrayName)
  | vertexPointer (pointer : Pointer Vertex)
  | texCoordPointer (pointer : Pointer Vertex)
  | bindTexture (name : Nat)
  | bindBuffer (name : Nat)
  | useProgram (name : Nat)
  | stencilFunc (comparison : Comparison) (ref mask : BitVec 8)
  | stencilOp (fail depthFail pass : StencilAction)
  | blendFunc (source destination : Factor)
  | color (color : Color)
  | clearColor (color : Color)
  | clear (color stencil : Bool)
  | drawArrays (mode : Mode) (count : Nat)
  | call (effect : Context Matrix Vertex Color → Context Matrix Vertex Color)

/-- A draw call with all that it depends on.  It is `readable` if the arrays have the
elements that it reads. -/
structure Draw (Matrix : Type u) (Vertex : Type v) (Color : Type w) where
  target : Nat
  matrix : Matrix
  mode : Mode
  vertices : List Vertex
  texCoords : Option (List Vertex)
  texture : Option Nat
  program : Nat
  color : Color
  stencil : Option Stencil
  blend : Factor × Factor
  readable : Bool

/-- What can be seen of a run. -/
inductive Event (Matrix : Type u) (Vertex : Type v) (Color : Type w) where
  | clear (target : Nat) (color : Option Color) (stencil : Bool)
  | draw (draw : Draw Matrix Vertex Color)

/-- The draw calls. -/
def Event.draw? {Matrix : Type u} {Vertex : Type v} {Color : Type w} :
    Event Matrix Vertex Color → Option (Draw Matrix Vertex Color)
  | .clear _ _ _ => none
  | .draw call => some call

section Semantics

variable {Matrix : Type u} {Vertex : Type v} {Color : Type w}

namespace Context

/-- Enabling and disabling. -/
def setCapability (capability : Capability) (on : Bool) (context : Context Matrix Vertex Color) :
    Context Matrix Vertex Color :=
  match capability with
  | .texture2D => { context with texture2D := on }
  | .stencilTest => { context with stencilTest := on }

/-- Enabling and disabling an array. -/
def setArray (array : ArrayName) (on : Bool) (context : Context Matrix Vertex Color) :
    Context Matrix Vertex Color :=
  match array with
  | .vertexArray => { context with vertices := { context.vertices with enabled := on } }
  | .textureCoordArray => { context with texCoords := { context.texCoords with enabled := on } }

/-- What a pointer command refers to: with a bound buffer the argument is an offset. -/
def resolve (context : Context Matrix Vertex Color) : Pointer Vertex → Source Vertex
  | .memory elements => if context.buffer = 0 then .memory elements else .nowhere
  | .null => if context.buffer = 0 then .nowhere else .buffer context.buffer

/-- A draw call. -/
def draw (buffers : Nat → List Vertex) (context : Context Matrix Vertex Color) (mode : Mode)
    (count : Nat) : Draw Matrix Vertex Color where
  target := context.framebuffer
  matrix := context.matrix
  mode := mode
  vertices :=
    if context.vertices.enabled then (context.vertices.source.elements buffers).take count else []
  texCoords :=
    if context.texCoords.enabled then some ((context.texCoords.source.elements buffers).take count)
    else none
  texture := if context.texture2D then some context.texture else none
  program := context.program
  color := context.color
  stencil := if context.stencilTest then some context.stencil else none
  blend := context.blend
  readable := context.vertices.Holds buffers count ∧ context.texCoords.Holds buffers count

end Context

namespace Command

/-- The context after a command.  Restoring a matrix that was not saved is an error, and the
command is ignored. -/
def effect [Mul Matrix] [One Matrix] (command : Command Matrix Vertex Color)
    (context : Context Matrix Vertex Color) : Context Matrix Vertex Color :=
  match command with
  | .pushMatrix => { context with saved := context.matrix :: context.saved }
  | .popMatrix =>
      match context.saved with
      | matrix :: saved => { context with matrix, saved }
      | [] => context
  | .loadIdentity => { context with matrix := 1 }
  | .multMatrix matrix => { context with matrix := context.matrix * matrix }
  | .enable capability => context.setCapability capability true
  | .disable capability => context.setCapability capability false
  | .enableClientState array => context.setArray array true
  | .disableClientState array => context.setArray array false
  | .vertexPointer pointer =>
      { context with vertices := { context.vertices with source := context.resolve pointer } }
  | .texCoordPointer pointer =>
      { context with texCoords := { context.texCoords with source := context.resolve pointer } }
  | .bindTexture name => { context with texture := name }
  | .bindBuffer name => { context with buffer := name }
  | .useProgram name => { context with program := name }
  | .stencilFunc comparison ref mask =>
      { context with stencil := { context.stencil with comparison, ref, mask } }
  | .stencilOp fail depthFail pass =>
      { context with stencil := { context.stencil with fail, depthFail, pass } }
  | .blendFunc source destination => { context with blend := (source, destination) }
  | .color value => { context with color := value }
  | .clearColor value => { context with clearColor := value }
  | .clear _ _ => context
  | .drawArrays _ _ => context
  | .call effect => effect context

/-- What can be seen of a command. -/
def emitted (buffers : Nat → List Vertex) (command : Command Matrix Vertex Color)
    (context : Context Matrix Vertex Color) : List (Event Matrix Vertex Color) :=
  match command with
  | .clear clearsColor clearsStencil =>
      [.clear context.framebuffer (if clearsColor then some context.clearColor else none)
        clearsStencil]
  | .drawArrays mode count => [.draw (context.draw buffers mode count)]
  | _ => []

end Command

/-! ## Runs -/

section Runs

variable [Mul Matrix] [One Matrix]

/-- The context after some commands. -/
def after (commands : List (Command Matrix Vertex Color)) (context : Context Matrix Vertex Color) :
    Context Matrix Vertex Color :=
  commands.foldl (fun context command => command.effect context) context

/-- What can be seen of some commands. -/
def events (buffers : Nat → List Vertex) :
    List (Command Matrix Vertex Color) → Context Matrix Vertex Color →
      List (Event Matrix Vertex Color)
  | [], _ => []
  | command :: rest, context =>
      command.emitted buffers context ++ events buffers rest (command.effect context)

variable (buffers : Nat → List Vertex) (first second : List (Command Matrix Vertex Color))
  (context : Context Matrix Vertex Color)

@[simp]
theorem after_nil : after [] context = context :=
  rfl

@[simp]
theorem after_cons (command : Command Matrix Vertex Color) :
    after (command :: first) context = after first (command.effect context) :=
  rfl

@[simp]
theorem after_append : after (first ++ second) context = after second (after first context) :=
  List.foldl_append

@[simp]
theorem events_nil : events buffers [] context = [] :=
  rfl

@[simp]
theorem events_cons (command : Command Matrix Vertex Color) :
    events buffers (command :: first) context =
      command.emitted buffers context ++ events buffers first (command.effect context) :=
  rfl

@[simp]
theorem events_append :
    events buffers (first ++ second) context =
      events buffers first context ++ events buffers second (after first context) := by
  induction first generalizing context with
  | nil => rfl
  | cons command rest ih =>
      rw [List.cons_append, events_cons, ih, events_cons, after_cons, List.append_assoc]

/-- A property that every element's commands keep holds after the commands of all. -/
theorem after_flatMap {α : Type x} (property : Context Matrix Vertex Color → Prop)
    {commands : α → List (Command Matrix Vertex Color)} {elements : List α}
    (kept : ∀ element ∈ elements, ∀ context, property context →
      property (after (commands element) context))
    {context : Context Matrix Vertex Color} (initially : property context) :
    property (after (elements.flatMap commands) context) := by
  induction elements generalizing context with
  | nil => exact initially
  | cons element rest ih =>
      rw [List.flatMap_cons, after_append]
      apply ih
      · exact fun other member => kept other (List.mem_cons_of_mem _ member)
      · exact kept element List.mem_cons_self context initially

/-! ## Readable runs -/

omit [Mul Matrix] [One Matrix] in
theorem readable_draw_iff (mode : Mode) (count : Nat) :
    (context.draw buffers mode count).readable = true ↔
      context.vertices.Holds buffers count ∧ context.texCoords.Holds buffers count :=
  decide_eq_true_iff

/-- The arrays of every draw call have the elements that it reads. -/
def Readable (buffers : Nat → List Vertex) (commands : List (Command Matrix Vertex Color))
    (context : Context Matrix Vertex Color) : Prop :=
  ∀ call ∈ (events buffers commands context).filterMap Event.draw?, call.readable = true

theorem readable_of_events_eq_draw {buffers : Nat → List Vertex}
    {commands : List (Command Matrix Vertex Color)} {context : Context Matrix Vertex Color}
    {call : Draw Matrix Vertex Color} (seen : events buffers commands context = [.draw call]) :
    Readable buffers commands context ↔ call.readable = true := by
  rw [Readable, seen]
  exact List.forall_mem_singleton

theorem readable_of_events_eq_nil {buffers : Nat → List Vertex}
    {commands : List (Command Matrix Vertex Color)} {context : Context Matrix Vertex Color}
    (silent : events buffers commands context = []) : Readable buffers commands context := by
  rw [Readable, silent]
  exact fun _ => nofun

theorem readable_append_iff :
    Readable buffers (first ++ second) context ↔
      Readable buffers first context ∧ Readable buffers second (after first context) := by
  simp only [Readable, events_append, List.filterMap_append, List.forall_mem_append]

/-- If a property holds before the commands of every element, and under it the commands of
each are readable exactly if the element meets a condition, then those of all are readable
exactly if every element meets it. -/
theorem readable_flatMap_iff {α : Type x} (property : Context Matrix Vertex Color → Prop)
    {condition : α → Prop} {commands : α → List (Command Matrix Vertex Color)}
    {elements : List α}
    (turns : ∀ element ∈ elements, ∀ context, property context →
      property (after (commands element) context) ∧
        (Readable buffers (commands element) context ↔ condition element))
    {context : Context Matrix Vertex Color} (initially : property context) :
    Readable buffers (elements.flatMap commands) context ↔
      ∀ element ∈ elements, condition element := by
  induction elements generalizing context with
  | nil => exact iff_of_true (readable_of_events_eq_nil rfl) (fun _ => nofun)
  | cons element rest ih =>
      obtain ⟨still, turned⟩ := turns element List.mem_cons_self context initially
      rw [List.flatMap_cons, readable_append_iff, turned, List.forall_mem_cons,
        ih (fun other member => turns other (List.mem_cons_of_mem _ member)) still]

end Runs

end Semantics

end LegendOfStealth.Library.Pipeline
