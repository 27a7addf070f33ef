import LegendOfStealth.Library.Heap
import LegendOfStealth.Library.Transition
import Mathlib.Data.List.TakeWhile

/-!
# Shaders

A `Shader` reads two source files, compiles them and links a program.  The constructor
throws if one of these steps fails.  Then the destructor does not run, and what has been
created is deleted by the step that failed or not at all.

The driver is a parameter: which objects it can create, and what it says of sources and of
the program.
-/

namespace LegendOfStealth.Shading

open LegendOfStealth.Library

/-- An `ifstream`: what is left of the file, and `eofbit` and `failbit`. -/
structure IfStream where
  rest : List Char
  eof : Bool
  fail : Bool
  deriving DecidableEq

namespace IfStream

/-- `open`; a file that does not exist fails. -/
def openFile : Option (List Char) → IfStream
  | some text => ⟨text, false, false⟩
  | none => ⟨[], false, true⟩

/-- `getline`.  A stream that is at its end or has failed yields nothing and fails; a line
that the end of the file ends sets `eofbit`, and fails if it is empty. -/
def getline (file : IfStream) : List Char × IfStream :=
  if file.eof || file.fail then ([], { file with fail := true })
  else
    let line := file.rest.takeWhile (· ≠ '\n')
    match file.rest.dropWhile (· ≠ '\n') with
    | _ :: rest => (line, { file with rest })
    | [] => (line, ⟨[], true, line.isEmpty⟩)

/-- How many more calls of `getline` a stream can bear. -/
def measure (file : IfStream) : Nat :=
  file.rest.length + (if file.eof then 0 else 1) + if file.fail then 0 else 1

theorem length_of_dropWhile {α : Type} {property : α → Bool} {list rest : List α} {x : α}
    (dropped : list.dropWhile property = x :: rest) : rest.length < list.length := by
  have suffix : list.dropWhile property <:+ list := List.dropWhile_suffix property
  have shorter := suffix.length_le
  rw [dropped, List.length_cons] at shorter
  exact shorter

theorem measure_getline {file : IfStream} (good : file.fail = false) :
    file.getline.2.measure < file.measure := by
  cases ended : file.eof with
  | true => simp [getline, measure, ended, good]
  | false =>
      rw [getline]
      simp only [ended, good, Bool.or_self, Bool.false_eq_true, if_false]
      split
      · rename_i rest dropped
        have shorter := length_of_dropWhile dropped
        simp only [measure, ended, good, Bool.false_eq_true, if_false]
        omega
      · simp only [measure, ended, good, List.length_nil, if_true, Bool.false_eq_true, if_false]
        split <;> omega

/-- The loop of `GetShaderSource`. -/
def readLines (file : IfStream) : List Char :=
  if _good : file.fail = false then
    file.getline.1 ++ ['\n'] ++ readLines file.getline.2
  else []
termination_by file.measure
decreasing_by exact measure_getline _good

end IfStream

/-- `GetShaderSource`, of a file if it exists. -/
def getShaderSource (content : Option (List Char)) : List Char :=
  (IfStream.openFile content).readLines

/-- The text with its last line ended. -/
def ended (text : List Char) : List Char :=
  if text = [] ∨ text.getLast? = some '\n' then text else text ++ ['\n']

namespace IfStream

theorem readLines_of_fail {file : IfStream} (failed : file.fail = true) : file.readLines = [] := by
  rw [readLines, dif_neg (by rw [failed]; exact Bool.noConfusion)]

theorem readLines_of_eof (rest : List Char) : (⟨rest, true, false⟩ : IfStream).readLines = ['\n'] := by
  rw [readLines, dif_pos rfl, readLines_of_fail rfl]
  rfl

theorem ended_append (line rest : List Char) :
    ended (line ++ '\n' :: rest) = line ++ '\n' :: ended rest := by
  cases rest with
  | nil => simp [ended]
  | cons x rest =>
      have last : (line ++ '\n' :: x :: rest).getLast? = (x :: rest).getLast? := by
        rw [List.getLast?_append, List.getLast?_cons_cons, List.getLast?_cons, Option.some_or]
      rw [ended, ended, last]
      simp only [List.append_eq_nil_iff, List.cons_ne_nil, and_false, false_or]
      split
      · rfl
      · rw [List.append_assoc, List.cons_append]

theorem ended_of_notMem {text : List Char} (single : '\n' ∉ text) (some : text ≠ []) :
    ended text = text ++ ['\n'] := by
  rw [ended, if_neg]
  rintro (none | last)
  · exact some none
  · exact single (List.mem_of_getLast? last)

/-- What is left of a text is read to its end, and an empty line after it. -/
theorem readLines_of_text (text : List Char) :
    (⟨text, false, false⟩ : IfStream).readLines = ended text ++ ['\n'] := by
  induction shorter : text.length using Nat.strongRecOn generalizing text with
  | ind n ih =>
      subst shorter
      have split : text.takeWhile (· ≠ '\n') ++ text.dropWhile (· ≠ '\n') = text :=
        List.takeWhile_append_dropWhile
      rw [readLines, dif_pos rfl, getline]
      simp only [Bool.or_self, Bool.false_eq_true, if_false]
      cases dropped : text.dropWhile (· ≠ '\n') with
      | cons x rest =>
          have newline : x = '\n' := by
            have stops := List.head?_dropWhile_not (· ≠ '\n') text
            rw [dropped] at stops
            simpa using stops
          subst newline
          rw [dropped] at split
          dsimp only
          rw [ih _ (length_of_dropWhile dropped) rest rfl]
          conv_rhs => rw [← split, ended_append]
          simp
      | nil =>
          have single : '\n' ∉ text := by
            intro member
            have all := List.dropWhile_eq_nil_iff.mp dropped _ member
            simp at all
          rw [dropped, List.append_nil] at split
          dsimp only
          rw [split]
          by_cases empty : text = []
          · subst empty
            rw [readLines_of_fail rfl]
            rfl
          · rw [ended_of_notMem single empty]
            have some : text.isEmpty = false := by simpa using empty
            rw [some, readLines_of_eof]

end IfStream

/-- Shader sources: of a file that exists, the text is compiled with its last line ended and
an empty line after it; of a file that does not exist, the empty text. -/
theorem getShaderSource_eq (content : Option (List Char)) :
    getShaderSource content = content.elim [] fun text => ended text ++ ['\n'] := by
  cases content with
  | none => exact IfStream.readLines_of_fail rfl
  | some text => exact IfStream.readLines_of_text text

/-! ## Objects of the driver -/

/-- The two shader objects of a program. -/
inductive Kind
  | fragment
  | vertex
  deriving DecidableEq

/-- What the driver answers: which objects it can create, which sources it compiles, and
whether it links the program. -/
structure Driver where
  createsShader : Kind → Bool
  createsProgram : Bool
  compiles : Kind → List Char → Bool
  links : Bool

/-- The objects of a `Shader`, by name. -/
structure Shader where
  vert : Option Nat
  frag : Option Nat
  prog : Option Nat
  deriving DecidableEq

namespace Shader

/-- `glCreateShader` and `glCreateProgram`. -/
def create (creates : Bool) (created : Heap) : Option Nat × Heap :=
  if creates then (some created.allocated, created.allocate) else (none, created)

/-- `CompileShader`, which deletes a shader that does not compile. -/
def compileShader (driver : Driver) (kind : Kind) (source : List Char) (shader : Nat)
    (created : Heap) : Option Nat × Heap :=
  let created := created.access shader
  if driver.compiles kind source then (some shader, created)
  else (none, created.release shader)

/-- `LinkProgram`, which deletes everything if it fails. -/
def linkProgram (driver : Driver) (frag vert prog : Nat) (created : Heap) : Bool × Heap :=
  let created := created.access prog
  if driver.links then (true, created)
  else (false, ((created.release frag).release vert).release prog)

/-- `LoadShader`: the members that are set if it succeeds. -/
def loadShader (driver : Driver) (files : String → Option (List Char))
    (fragfile vertfile : String) (created : Heap) : Option Shader × Heap :=
  let (frag, created) := create (driver.createsShader .fragment) created
  let (vert, created) := create (driver.createsShader .vertex) created
  match frag, vert with
  | some frag, some vert =>
      match compileShader driver .fragment (getShaderSource (files fragfile)) frag created with
      | (none, created) => (none, created)
      | (some frag, created) =>
      match compileShader driver .vertex (getShaderSource (files vertfile)) vert created with
      | (none, created) => (none, created)
      | (some vert, created) =>
      match create driver.createsProgram created with
      | (none, created) => (none, created)
      | (some prog, created) =>
          let created := (created.access vert).access frag
          match linkProgram driver frag vert prog created with
          | (true, created) => (some ⟨some vert, some frag, some prog⟩, created)
          | (false, created) => (none, created)
  | _, _ => (none, created)

/-- `Shader::~Shader`. -/
def destroy (shader : Shader) (created : Heap) : Heap :=
  let created := shader.vert.elim created created.release
  let created := shader.frag.elim created created.release
  shader.prog.elim created created.release

/-- `Enable`. -/
def enable (shader : Shader) (created : Heap) : Heap :=
  shader.prog.elim created created.access

/-- The objects that the destructor deletes. -/
def names (shader : Shader) : List Nat :=
  shader.vert.toList ++ shader.frag.toList ++ shader.prog.toList

/-- The constructor of a shader that cannot be created, compiled or linked deletes what it
has created: either no shader object was created, or everything was but the program does
not link. -/
def Tidy (driver : Driver) (files : String → Option (List Char)) (fragfile vertfile : String) :
    Prop :=
  (driver.createsShader .fragment = false ∧ driver.createsShader .vertex = false) ∨
    ((driver.createsShader .fragment = true ∧ driver.createsShader .vertex = true) ∧
      (driver.compiles .fragment (getShaderSource (files fragfile)) = true ∧
        driver.compiles .vertex (getShaderSource (files vertfile)) = true) ∧
      driver.createsProgram = true)

instance (driver : Driver) (files : String → Option (List Char)) (fragfile vertfile : String) :
    Decidable (Tidy driver files fragfile vertfile) :=
  inferInstanceAs (Decidable (_ ∨ _))

section Objects

variable {driver : Driver} {files : String → Option (List Char)} {fragfile vertfile : String}
  {created after : Heap} {owned : List Nat}

/-- Something that was created on the way is not accounted for at the end. -/
theorem lost_of_keeps {name : Nat} (more : List Nat)
    (keeps : Heap.Keeps created owned after (name :: (more ++ owned)))
    (bounded : created.Bounded owned) (new : created.allocated ≤ name)
    (allocated : name < after.allocated) : after.Bounded owned ∧ ¬ after.Covered owned := by
  have fewer (other : Nat) : after.charges owned other ≤ after.charges (more ++ owned) other := by
    simp only [Heap.charges, List.count_append]
    omega
  obtain ⟨still, -, uncovered⟩ := keeps.lose bounded new allocated
  constructor
  · intro other beyond
    exact Nat.eq_zero_of_le_zero ((fewer other).trans (still other beyond).le)
  · exact fun covered => uncovered fun other below => (covered other below).trans (fewer other)

/-- What a tidy constructor leaves: the objects of the shader, or nothing. -/
inductive Loaded (created : Heap) (owned : List Nat) : Option Shader × Heap → Prop
  | loaded {shader final} : Heap.Keeps created owned final (shader.names ++ owned) →
      Loaded created owned (some shader, final)
  | deleted {final} : Heap.Keeps created owned final owned → Loaded created owned (none, final)

/-- Both shader objects have been created and compiled. -/
theorem keeps_compiled (created : Heap) (owned : List Nat) :
    Heap.Keeps created owned
      ((created.allocate.allocate.access created.allocated).access (created.allocated + 1))
      ((created.allocated + 1) :: created.allocated :: owned) := by
  have frag := Heap.keeps_allocate created owned
  have vert := Heap.keeps_allocate created.allocate (created.allocated :: owned)
  refine (frag.trans vert).trans ((Heap.keeps_access ?_).trans (Heap.keeps_access ?_))
  · exact List.mem_cons_of_mem _ List.mem_cons_self
  · exact List.mem_cons_self

/-- The three objects are used, and deleted if the program does not link. -/
theorem loaded_linkProgram {vert frag : Nat} (prog : Nat)
    (made : Heap.Keeps created owned after (prog :: vert :: frag :: owned)) :
    Loaded created owned
      (match linkProgram driver frag vert prog ((after.access vert).access frag) with
        | (true, created) => (some ⟨some vert, some frag, some prog⟩, created)
        | (false, created) => (none, created)) := by
  have used : Heap.Keeps created owned (((after.access vert).access frag).access prog)
      (prog :: vert :: frag :: owned) := by
    refine made.trans ((Heap.keeps_access ?_).trans
      ((Heap.keeps_access ?_).trans (Heap.keeps_access ?_)))
    · simp
    · simp
    · simp
  rw [linkProgram]
  cases driver.links with
  | true =>
      refine .loaded (used.reorder (.refl _) ?_)
      have turned : ([vert, frag] ++ [prog]).Perm ([prog] ++ [vert, frag]) :=
        List.perm_append_comm
      exact turned.append_right owned
  | false =>
      have turned : [frag, vert, prog].Perm [prog, vert, frag] :=
        List.reverse_perm [prog, vert, frag]
      refine .deleted ((used.reorder (.refl _) (turned.append_right owned)).trans ?_)
      exact (Heap.keeps_release _ _ _).trans
        ((Heap.keeps_release _ _ _).trans (Heap.keeps_release _ _ _))

theorem loaded_of_tidy (tidy : Tidy driver files fragfile vertfile) (created : Heap)
    (owned : List Nat) :
    Loaded created owned (loadShader driver files fragfile vertfile created) := by
  obtain ⟨noFrag, noVert⟩ | ⟨⟨frag, vert⟩, ⟨fragCompiles, vertCompiles⟩, prog⟩ := tidy
  · simp only [loadShader, noFrag, noVert, create]
    exact .deleted (.refl _ _)
  · simp only [loadShader, frag, vert, prog, create, compileShader, fragCompiles,
      vertCompiles, if_true]
    exact loaded_linkProgram _ ((keeps_compiled created owned).trans (Heap.keeps_allocate _ _))

theorem lost_of_not_tidy (untidy : ¬ Tidy driver files fragfile vertfile)
    (bounded : created.Bounded owned) :
    ∃ final, loadShader driver files fragfile vertfile created = (none, final) ∧
      final.Bounded owned ∧ ¬ final.Covered owned := by
  have frag := Heap.keeps_allocate created owned
  have vert := Heap.keeps_allocate created.allocate (created.allocated :: owned)
  simp only [Tidy, not_or, not_and] at untidy
  obtain ⟨neither, untidy⟩ := untidy
  cases createsFrag : driver.createsShader .fragment with
  | false =>
      have createsVert : driver.createsShader .vertex = true := by simpa using neither createsFrag
      simp only [loadShader, createsFrag, createsVert, create]
      exact ⟨_, rfl, lost_of_keeps [] frag bounded le_rfl (Nat.lt_succ_self _)⟩
  | true =>
  cases createsVert : driver.createsShader .vertex with
  | false =>
      simp only [loadShader, createsFrag, createsVert, create]
      exact ⟨_, rfl, lost_of_keeps [] frag bounded le_rfl (Nat.lt_succ_self _)⟩
  | true =>
  have both := frag.trans vert
  simp only [loadShader, createsFrag, createsVert, create, if_true, compileShader]
  cases fragCompiles : driver.compiles .fragment (getShaderSource (files fragfile)) with
  | false =>
      have kept : Heap.Keeps created owned
          ((created.allocate.allocate.access created.allocated).release created.allocated)
          ((created.allocated + 1) :: owned) := by
        refine (both.trans (Heap.keeps_access ?_)).trans
          ((Heap.Keeps.refl _ _).reorder (.swap ..) (.refl _) |>.trans (Heap.keeps_release _ _ _))
        exact List.mem_cons_of_mem _ List.mem_cons_self
      refine ⟨_, rfl, lost_of_keeps [] kept bounded (Nat.le_succ _) ?_⟩
      simp [Heap.allocate]
  | true =>
  cases vertCompiles : driver.compiles .vertex (getShaderSource (files vertfile)) with
  | false =>
      have kept := (keeps_compiled created owned).trans
        (Heap.keeps_release _ (created.allocated :: owned) (created.allocated + 1))
      refine ⟨_, rfl, lost_of_keeps [] kept bounded le_rfl ?_⟩
      simp only [Heap.allocated_release, Heap.allocated_access]
      exact Nat.lt_succ_of_lt (Nat.lt_succ_self _)
  | true =>
      have createsProg : driver.createsProgram = false := by
        simpa using untidy ⟨createsFrag, createsVert⟩ ⟨fragCompiles, vertCompiles⟩
      simp only [createsProg, if_true]
      refine ⟨_, rfl, lost_of_keeps [created.allocated] (keeps_compiled created owned)
        bounded (Nat.le_succ _) ?_⟩
      simp [Heap.allocate]

end Objects

end Shader

/-! ## Shaders over time -/

/-- The shaders that there are, and the objects of the driver. -/
structure Studio where
  created : Heap
  shaders : List Shader

namespace Studio

/-- A shader is constructed, used or destroyed. -/
inductive Call where
  | construct (driver : Driver) (files : String → Option (List Char))
      (fragfile vertfile : String)
  | enable (shader : Shader)
  | destroy (shader : Shader)

/-- Before the first call. -/
def start : Studio :=
  ⟨.empty, []⟩

/-- One call.  Only shaders that there are can be used and destroyed. -/
def step : Step Call Studio
  | .construct driver files fragfile vertfile, studio =>
      match Shader.loadShader driver files fragfile vertfile studio.created with
      | (none, created) => some { studio with created }
      | (some shader, created) => some ⟨created, shader :: studio.shaders⟩
  | .enable shader, studio =>
      if shader ∈ studio.shaders then
        some { studio with created := shader.enable studio.created }
      else none
  | .destroy shader, studio =>
      if shader ∈ studio.shaders then
        some ⟨shader.destroy studio.created, studio.shaders.erase shader⟩
      else none

/-- The objects of all shaders. -/
def owned (studio : Studio) : List Nat :=
  studio.shaders.flatMap Shader.names

/-- Every object that has been created belongs to one shader or has been deleted, once, and
none has been used since. -/
structure Accounted (studio : Studio) : Prop where
  sole : studio.created.Sole studio.owned
  covered : studio.created.Covered studio.owned
  used : studio.created.stale = []

/-- The constructor is tidy. -/
def Tidies : Call → Prop
  | .construct driver files fragfile vertfile => Shader.Tidy driver files fragfile vertfile
  | _ => True

section Steps

variable {studio next : Studio} {call : Call}

theorem Accounted.of_keeps (accounted : studio.Accounted)
    (bounded : studio.created.Bounded studio.owned)
    (keeps : Heap.Keeps studio.created studio.owned next.created next.owned) :
    next.created.Bounded next.owned ∧ next.Accounted :=
  ⟨keeps.bounded bounded, (keeps.sole_iff bounded).mpr accounted.sole,
    keeps.covered_iff.mpr accounted.covered,
    (keeps.used bounded accounted.sole).trans accounted.used⟩

theorem keeps_enable {shader : Shader} (member : shader ∈ studio.shaders) :
    Heap.Keeps studio.created studio.owned (shader.enable studio.created) studio.owned := by
  rw [Shader.enable]
  cases linked : shader.prog with
  | none => exact .refl _ _
  | some prog =>
      apply Heap.keeps_access
      exact List.mem_flatMap.mpr ⟨shader, member, by simp [Shader.names, linked]⟩

theorem keeps_destroy (shader : Shader) (created : Heap) (rest : List Nat) :
    Heap.Keeps created (shader.names ++ rest) (shader.destroy created) rest := by
  have release (object : Option Nat) (created : Heap) (rest : List Nat) :
      Heap.Keeps created (object.toList ++ rest) (object.elim created created.release) rest := by
    cases object with
    | none => exact .refl _ _
    | some name => exact Heap.keeps_release _ _ _
  rw [Shader.names, List.append_assoc, List.append_assoc]
  exact ((release _ _ _).trans (release _ _ _)).trans (release _ _ _)

/-- One call in a studio in which everything is accounted for. -/
theorem Accounted.step_iff (accounted : studio.Accounted)
    (bounded : studio.created.Bounded studio.owned) (stepped : step call studio = some next) :
    next.created.Bounded next.owned ∧ (next.Accounted ↔ Tidies call) := by
  cases call with
  | construct driver files fragfile vertfile =>
      by_cases tidy : Shader.Tidy driver files fragfile vertfile
      · have loaded := Shader.loaded_of_tidy tidy studio.created studio.owned
        rw [step] at stepped
        generalize Shader.loadShader driver files fragfile vertfile studio.created = result
          at loaded stepped
        cases loaded with
        | loaded keeps =>
            cases stepped
            exact (accounted.of_keeps bounded keeps).imp_right (iff_of_true · tidy)
        | deleted keeps =>
            cases stepped
            exact (accounted.of_keeps bounded keeps).imp_right (iff_of_true · tidy)
      · obtain ⟨final, thrown, still, uncovered⟩ := Shader.lost_of_not_tidy tidy bounded
        rw [step, thrown] at stepped
        cases stepped
        exact ⟨still, iff_of_false (fun kept => uncovered kept.covered) tidy⟩
  | enable shader =>
      rw [step] at stepped
      split at stepped
      · rename_i member
        cases stepped
        exact (accounted.of_keeps bounded (keeps_enable member)).imp_right (iff_of_true · trivial)
      · contradiction
  | destroy shader =>
      rw [step] at stepped
      split at stepped
      · rename_i member
        cases stepped
        have together := (List.perm_cons_erase member).flatMap_right Shader.names
        let rest : Studio := ⟨shader.destroy studio.created, studio.shaders.erase shader⟩
        have keeps : Heap.Keeps studio.created studio.owned rest.created rest.owned :=
          (keeps_destroy shader studio.created _).reorder together (.refl _)
        exact (accounted.of_keeps bounded keeps).imp_right (iff_of_true · trivial)
      · contradiction

end Steps

/-- Shader objects: in every state of a run, every object that has been created belongs to
one shader or has been deleted once, and none is used afterwards, exactly if every
constructor is tidy. -/
theorem always_accounted_iff (calls : List Call) :
    Always step Accounted calls start ↔ Meets step (fun _ => Tidies) calls start := by
  apply always_iff_meets fun studio => studio.created.Bounded studio.owned
  · exact fun bounded accounted stepped => accounted.step_iff bounded stepped
  · exact Heap.bounded_empty
  · exact ⟨Heap.sole_empty, Heap.covered_empty, rfl⟩

end Studio

end LegendOfStealth.Shading
