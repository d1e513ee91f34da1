import PageBoot.Number.Binary64
import PageBoot.Text.Quoted

/-!
Values that pages hand around, and failures. The two types refer to each other: a failure may
carry the offending value, and a failure may itself be handed around as a value.
-/

namespace PageBoot

/-- Where in the loading of a page a failure arose. -/
structure Phase where
  name : Text
  deriving DecidableEq, Repr

namespace Phase

def register : Phase := ⟨"register"⟩
def resolve : Phase := ⟨"resolve"⟩
def handshake : Phase := ⟨"handshake"⟩
def session : Phase := ⟨"session"⟩
def bootstrap : Phase := ⟨"bootstrap"⟩
def config : Phase := ⟨"config"⟩
def invoke : Phase := ⟨"invoke"⟩
def load : Phase := ⟨"load"⟩

end Phase

/-- What went wrong. -/
structure Kind where
  name : Text
  deriving DecidableEq, Repr

namespace Kind

def invalidInput : Kind := ⟨"invalid_input"⟩
def duplicate : Kind := ⟨"duplicate"⟩
def notFound : Kind := ⟨"not_found"⟩
def invalidValue : Kind := ⟨"invalid_value"⟩
def incompleteTable : Kind := ⟨"incomplete_table"⟩
def pluginAbsent : Kind := ⟨"plugin_absent"⟩
def disconnected : Kind := ⟨"disconnected"⟩
def configParse : Kind := ⟨"config_parse"⟩
def arity : Kind := ⟨"arity"⟩
def exception : Kind := ⟨"exception"⟩
def invalidState : Kind := ⟨"invalid_state"⟩
def instantiation : Kind := ⟨"instantiation"⟩

end Kind

mutual

inductive Value where
  | null
  | int (n : Int)
  | str (t : Text)
  | bool (b : Bool)
  | float (x : Binary64)
  /-- A page object with an identity of its own. -/
  | object (name : Text)
  /-- A page object that wants to hear when it is no longer referenced. -/
  | releasable (name : Text)
  | list (vs : List Value)
  | box (v : Value)
  | texts (ts : List Text)
  | failure (f : Failure)

inductive Failure where
  | plain (text : Text)
  /-- A failure of another system, in that system's words. -/
  | external (text : Text)
  /-- A cause with remarks before and after it. -/
  | remark (before after : Text) (cause : Failure)
  | report (phase : Phase) (kind : Kind) (subject detail : Text) (value : Value)
      (cause : Option Failure)
  /-- A property value outside the legal set. -/
  | property (name value : Text) (allowed : List Text)
  /-- A connector that was found but refused to connect. -/
  | refused (codeServer module connector : Text) (cause : Option Failure)

end

instance : Inhabited Value := ⟨.null⟩
instance : Inhabited Failure := ⟨.plain []⟩

namespace Failure

/-- The wording of a failure, where `foreign` says how the words of other systems are shown. A
cause is quoted at the end of a report and left out of a refusal. -/
def messageWith (foreign : Text → Text) : Failure → Text
  | .plain t => t
  | .external t => foreign t
  | .remark before after c => before ++ c.messageWith foreign ++ after
  | .report p k s d _ none => head p k s d
  | .report p k s d _ (some c) =>
    head p k s d ++ " (caused by: " ++ c.messageWith foreign ++ ")"
  | .property n v allowed =>
    "[resolve] invalid_value for " ++ n ++ ": " ++ Text.quote v ++ " is not one of [" ++
      Text.join ", " allowed ++ "]"
  | .refused cs m conn _ =>
    "[handshake] connection_refused: plugin failed to connect to code server at " ++ cs ++
      Text.when (!conn.isEmpty) (" via " ++ conn) ++
      Text.when (!m.isEmpty) (" (module " ++ m ++ ")")
where
  head (p : Phase) (k : Kind) (s d : Text) : Text :=
    "[" ++ p.name ++ "] " ++ k.name ++ Text.when (!s.isEmpty) (" for " ++ s) ++
      Text.when (!d.isEmpty) (": " ++ d)

/-- The wording of a failure. -/
def message (f : Failure) : Text := f.messageWith fun t => t

/-- What stands for the words of another system where they are not repeated. -/
def foreignWords : Text := "<external>"

/-- A failure of another system whose words are not kept. -/
def foreign : Failure := .external foreignWords

/-- A file that is not there. -/
def missingFile (path : Text) : Failure := .external ("open " ++ path ++ ": no such file or directory")

/-- The wording of a failure without the words of other systems. -/
def discreet (f : Failure) : Text := f.messageWith fun _ => foreignWords

end Failure

namespace Value

/-- Whether the value can be compared with others of its kind. -/
def comparable : Value → Bool
  | .list _ => false
  | .texts _ => false
  | .box v => v.comparable
  | _ => true

/-- Equality of comparable values. Values of different kinds differ, and so do NaNs. -/
def same : Value → Value → Bool
  | .null, .null => true
  | .int a, .int b => a == b
  | .str a, .str b => a == b
  | .bool a, .bool b => a == b
  | .float a, .float b => a.same b
  | .object a, .object b => a == b
  | .releasable a, .releasable b => a == b
  | .box a, .box b => a.same b
  | _, _ => false

theorem same_comm (v w : Value) : v.same w = w.same v := by
  fun_induction same v w with
  | case5 a b => exact Binary64.same_comm a b
  | case8 a b ih => exact ih
  | case9 v w null int str bool float object releasable box =>
    exact (same.eq_9 w v (fun h h' => null h' h) (fun a b h h' => int b a h' h)
      (fun a b h h' => str b a h' h) (fun a b h h' => bool b a h' h)
      (fun a b h h' => float b a h' h) (fun a b h h' => object b a h' h)
      (fun a b h h' => releasable b a h' h) (fun a b h h' => box b a h' h)).symm
  | case1 => rfl
  | _ a b => exact BEq.comm

theorem same_trans {u v w : Value} (huv : u.same v = true) (hvw : v.same w = true) :
    u.same w = true := by
  fun_induction same u v generalizing w with
  | case1 => exact hvw
  | case5 a b =>
    cases w with
    | float c => exact Binary64.same_trans huv hvw
    | _ => cases hvw
  | case8 a b ih =>
    cases w with
    | box c => exact ih huv hvw
    | _ => cases hvw
  | case9 => cases huv
  | _ a b => exact eq_of_beq huv ▸ hvw

theorem comparable_of_same {v w : Value} (h : v.same w = true) : v.comparable = true := by
  fun_induction same v w with
  | case8 a b ih => exact ih h
  | case9 => cases h
  | _ => rfl

mutual

/-- The plain written form of a value. -/
def written : Value → Text
  | .null => "<nil>"
  | .int n => Text.ofInt n
  | .str t => t
  | .bool b => if b then "true" else "false"
  | .float x => x.toText
  | .object n => "obj:" ++ n
  | .releasable n => "rel:" ++ n
  | .list vs => "[" ++ writtenAll vs ++ "]"
  | .box v => "\x7b" ++ v.written ++ "\x7d"
  | .texts ts => "[" ++ Text.join " " ts ++ "]"
  | .failure f => f.message

def writtenAll : List Value → Text
  | [] => []
  | [v] => v.written
  | v :: w :: vs => v.written ++ " " ++ writtenAll (w :: vs)

end

end Value

end PageBoot
