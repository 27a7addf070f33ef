import LegendOfStealth.Client.Geometry
import Mathlib.Logic.Function.Basic

/-!
# Uniforms

A `Shader` remembers where the uniforms of its program are, and sets them with its program
in use.  Whatever is called in whatever order, the values that the program holds are those
that were set last, and no location is asked for twice.

Setting a uniform ends with no program in use, also between `Enable` and `Disable`.
-/

namespace LegendOfStealth.Shading

open LegendOfStealth.Geometry

/-- What is given to a `glUniform` function. -/
inductive Value
  | ints (components : List Int)
  | floats (components : List ℚ)
  deriving DecidableEq

/-- How many components there are. -/
def Value.length : Value → Nat
  | .ints components => components.length
  | .floats components => components.length

/-- A linked program: where its uniforms are, and which values may be set there. -/
structure Program where
  locate : String → Int
  accepts : Int → Value → Bool

/-- A `Shader` with its program: `_uniformID`, whether the program is in use, the values that
it holds, and the names that `glGetUniformLocation` has been asked for. -/
structure Session where
  uniformID : String → Option Int
  inUse : Bool
  stored : Int → Option Value
  lookups : List String

namespace Session

/-- The program has just been linked. -/
def linked : Session :=
  ⟨fun _ => none, false, fun _ => none, []⟩

/-- `glUniform`: without a program in use, at location -1 and with a value that does not fit
nothing is set. -/
def glUniform (program : Program) (location : Int) (value : Value) (session : Session) :
    Session :=
  if session.inUse ∧ location ≠ -1 ∧ program.accepts location value then
    { session with stored := Function.update session.stored location (some value) }
  else session

/-- `Enable`. -/
def enable (session : Session) : Session :=
  { session with inUse := true }

/-- `Disable`. -/
def disable (session : Session) : Session :=
  { session with inUse := false }

/-- `GetUniformLocation`. -/
def getUniformLocation (program : Program) (uniform : String) (session : Session) :
    Int × Session :=
  let session :=
    if session.uniformID uniform = none then
      { session with
        uniformID :=
          Function.update session.uniformID uniform (some (program.locate uniform))
        lookups := session.lookups ++ [uniform] }
    else session
  ((session.uniformID uniform).getD 0, session)

/-- `SetUniformXi` and `SetUniformXf`. -/
def setUniformX (program : Program) (name : String) (value : Value) (session : Session) :
    Session :=
  let session := session.enable
  let session :=
    if 1 ≤ value.length ∧ value.length ≤ 4 then
      let (location, session) := session.getUniformLocation program name
      session.glUniform program location value
    else session
  session.disable

/-- `SetUniform1i`. -/
def setUniform1i (program : Program) (n : String) (a : Int) : Session → Session :=
  setUniformX program n (.ints [a])

/-- `SetUniform2i`. -/
def setUniform2i (program : Program) (n : String) (a b : Int) : Session → Session :=
  setUniformX program n (.ints [a, b])

/-- `SetUniform3i`. -/
def setUniform3i (program : Program) (n : String) (a b c : Int) : Session → Session :=
  setUniformX program n (.ints [a, b, c])

/-- `SetUniform4i`. -/
def setUniform4i (program : Program) (n : String) (a b c d : Int) : Session → Session :=
  setUniformX program n (.ints [a, b, c, d])

/-- `SetUniform1f`. -/
def setUniform1f (program : Program) (n : String) (a : ℚ) : Session → Session :=
  setUniformX program n (.floats [a])

/-- `SetUniform2f`. -/
def setUniform2f (program : Program) (n : String) (a b : ℚ) : Session → Session :=
  setUniformX program n (.floats [a, b])

/-- `SetUniform3f`. -/
def setUniform3f (program : Program) (n : String) (a b c : ℚ) : Session → Session :=
  setUniformX program n (.floats [a, b, c])

/-- `SetUniform4f`. -/
def setUniform4f (program : Program) (n : String) (a b c d : ℚ) : Session → Session :=
  setUniformX program n (.floats [a, b, c, d])

end Session

/-! ## What the calls are for -/

/-- A call of a member function.  The functions that set a uniform differ in the value. -/
inductive Call
  | enable
  | disable
  | getUniformLocation (uniform : String)
  | setUniform (name : String) (value : Value)

/-- The call, on a shader with a program. -/
def Call.apply (program : Program) : Call → Session → Session
  | .enable, session => session.enable
  | .disable, session => session.disable
  | .getUniformLocation uniform, session => (session.getUniformLocation program uniform).2
  | .setUniform name value, session => session.setUniformX program name value

/-- What is to be seen of a shader: the values that its program holds, and whether it is in
use. -/
structure Uniforms where
  values : Int → Option Value
  inUse : Bool

namespace Uniforms

/-- Nothing has been set. -/
def initial : Uniforms :=
  ⟨fun _ => none, false⟩

/-- A value of one to four components that fits where the uniform is takes the place of what
was there before. -/
def assign (program : Program) (name : String) (value : Value) (values : Int → Option Value) :
    Int → Option Value :=
  if (1 ≤ value.length ∧ value.length ≤ 4) ∧ program.locate name ≠ -1 ∧
      program.accepts (program.locate name) value then
    Function.update values (program.locate name) (some value)
  else values

/-- What a call is for. -/
def expected (program : Program) (uniforms : Uniforms) : Call → Uniforms
  | .enable => ⟨uniforms.values, true⟩
  | .disable => ⟨uniforms.values, false⟩
  | .getUniformLocation _ => uniforms
  | .setUniform name value => ⟨assign program name value uniforms.values, false⟩

end Uniforms

namespace Session

/-- What is to be seen. -/
def uniforms (session : Session) : Uniforms :=
  ⟨session.stored, session.inUse⟩

/-- The locations that are remembered are those that have been asked for, each once. -/
structure Coherent (program : Program) (session : Session) : Prop where
  remembered : ∀ uniform, session.uniformID uniform =
    if uniform ∈ session.lookups then some (program.locate uniform) else none
  once : session.lookups.Nodup

section Coherent

variable {program : Program} {session : Session}

theorem coherent_linked (program : Program) : Coherent program linked :=
  ⟨fun _ => rfl, List.nodup_nil⟩

/-- `GetUniformLocation` returns the location and changes nothing that is to be seen. -/
theorem Coherent.getUniformLocation (coherent : session.Coherent program) (uniform : String) :
    (session.getUniformLocation program uniform).1 = program.locate uniform ∧
      (session.getUniformLocation program uniform).2.Coherent program ∧
      (session.getUniformLocation program uniform).2.uniforms = session.uniforms := by
  have remembered := coherent.remembered uniform
  by_cases asked : uniform ∈ session.lookups
  · rw [if_pos asked] at remembered
    simp only [Session.getUniformLocation, remembered, reduceCtorEq, if_false, Option.getD_some,
      true_and]
    exact ⟨coherent, trivial⟩
  · rw [if_neg asked] at remembered
    simp only [Session.getUniformLocation, remembered, if_true, Function.update_self,
      Option.getD_some, true_and]
    refine ⟨⟨?_, ?_⟩, rfl⟩
    · intro other
      dsimp only
      rw [Function.update_apply]
      by_cases same : other = uniform
      · simp [same]
      · simp [same, coherent.remembered other]
    · exact (List.perm_append_singleton _ _).nodup_iff.mpr
        (List.nodup_cons.mpr ⟨asked, coherent.once⟩)

theorem Coherent.glUniform (coherent : session.Coherent program) (location : Int)
    (value : Value) :
    (session.glUniform program location value).disable.Coherent program ∧
      (session.glUniform program location value).disable.uniforms =
        ⟨if session.inUse ∧ location ≠ -1 ∧ program.accepts location value then
            Function.update session.stored location (some value)
          else session.stored, false⟩ := by
  rw [Session.glUniform]
  split
  · exact ⟨⟨coherent.remembered, coherent.once⟩, rfl⟩
  · exact ⟨⟨coherent.remembered, coherent.once⟩, rfl⟩

theorem Coherent.setUniformX (coherent : session.Coherent program) (name : String)
    (value : Value) :
    (session.setUniformX program name value).Coherent program ∧
      (session.setUniformX program name value).uniforms =
        session.uniforms.expected program (.setUniform name value) := by
  have enabled : session.enable.Coherent program := ⟨coherent.remembered, coherent.once⟩
  by_cases components : 1 ≤ value.length ∧ value.length ≤ 4
  · obtain ⟨found, still, same⟩ := enabled.getUniformLocation name
    obtain ⟨values, inUse⟩ := Uniforms.mk.inj same
    obtain ⟨kept, set⟩ := still.glUniform (program.locate name) value
    rw [Session.setUniformX, if_pos components]
    dsimp only
    rw [found]
    refine ⟨kept, set.trans ?_⟩
    rw [values, inUse]
    simp only [Uniforms.expected, Uniforms.assign, components, enable, and_self, true_and]
    rfl
  · rw [Session.setUniformX, if_neg components, Uniforms.expected, Uniforms.assign,
      if_neg (fun fits => components fits.1)]
    exact ⟨⟨coherent.remembered, coherent.once⟩, rfl⟩

theorem Coherent.apply (coherent : session.Coherent program) (call : Call) :
    (call.apply program session).Coherent program ∧
      (call.apply program session).uniforms = session.uniforms.expected program call := by
  cases call with
  | enable => exact ⟨⟨coherent.remembered, coherent.once⟩, rfl⟩
  | disable => exact ⟨⟨coherent.remembered, coherent.once⟩, rfl⟩
  | getUniformLocation uniform => exact (coherent.getUniformLocation uniform).2
  | setUniform name value => exact coherent.setUniformX name value

theorem Coherent.foldl (coherent : session.Coherent program) (calls : List Call) :
    let later := calls.foldl (fun session call => call.apply program session) session
    later.Coherent program ∧
      later.uniforms = calls.foldl (Uniforms.expected program) session.uniforms := by
  induction calls generalizing session with
  | nil => exact ⟨coherent, rfl⟩
  | cons call rest ih =>
      obtain ⟨still, same⟩ := coherent.apply call
      rw [List.foldl_cons, List.foldl_cons, ← same]
      exact ih still

end Coherent

/-- Uniforms: after any calls the program holds the values that were set last and is in use
if the last call that concerns this was `Enable`; every location that is returned is the
program's, and none was asked for twice. -/
theorem uniforms_of_calls (program : Program) (calls : List Call) :
    let session := calls.foldl (fun session call => call.apply program session) linked
    session.uniforms = calls.foldl (Uniforms.expected program) .initial ∧
      session.lookups.Nodup ∧
      ∀ uniform, (session.getUniformLocation program uniform).1 = program.locate uniform := by
  obtain ⟨coherent, same⟩ := (coherent_linked program).foldl calls
  exact ⟨same, coherent.once, fun uniform => (coherent.getUniformLocation uniform).1⟩

end Session

end LegendOfStealth.Shading
