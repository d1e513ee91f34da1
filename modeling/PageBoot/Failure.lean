import PageBoot.Value

/-!
Failures as chains of causes: the usual constructors, and questions about a whole chain. A
question about reports looks at the outermost report only; questions about illegal property
values and refused connections look at every link.
-/

namespace PageBoot.Failure

/-! ## Constructors -/

def invalidInput (phase : Phase) (detail : Text) : Failure :=
  .report phase .invalidInput [] detail .null none

/-- Invalid input that concerns a named thing. -/
def invalidInputFor (phase : Phase) (subject detail : Text) : Failure :=
  .report phase .invalidInput subject detail .null none

def notFound (phase : Phase) (what name : Text) : Failure :=
  .report phase .notFound name (what ++ " " ++ Text.quote name ++ " not found") .null none

def duplicate (phase : Phase) (what name : Text) : Failure :=
  .report phase .duplicate name (what ++ " " ++ Text.quote name ++ " already registered") .null none

def incompleteTable (path : List Text) : Failure :=
  .report .resolve .incompleteTable [] ("no permutation for [" ++ Text.join ", " path ++ "]")
    (.texts path) none

def pluginAbsent (module : Text) : Failure :=
  .report .handshake .pluginAbsent module "no connector found" .null none

def unexpectedDisconnect (session : Text) : Failure :=
  .report .session .disconnected session "code server disconnected" .null none

def configParse (name content : Text) (cause : Option Failure) : Failure :=
  .report .config .configParse name ("bad handler " ++ Text.quote content) (.str content) cause

def invalidState (phase : Phase) (source target : Text) : Failure :=
  .report phase .invalidState [] ("cannot move from " ++ source ++ " to " ++ target) .null none

def wrap (phase : Phase) (kind : Kind) (cause : Option Failure) (detail : Text) : Failure :=
  .report phase kind [] detail .null cause

def load (detail : Text) (cause : Option Failure) : Failure :=
  .report .load .instantiation [] detail .null cause

/-- A cause with a remark and a colon before it. -/
def saying (text : Text) (cause : Failure) : Failure := .remark (text ++ ": ") [] cause

/-! ## Chains -/

def cause? : Failure → Option Failure
  | .remark _ _ c => some c
  | .report _ _ _ _ _ c => c
  | .refused _ _ _ c => c
  | _ => none

/-- The failure and its causes, outermost first. -/
def chain : Failure → List Failure
  | .remark b a c => .remark b a c :: c.chain
  | .report p k s d v (some c) => .report p k s d v (some c) :: c.chain
  | .refused s m k (some c) => .refused s m k (some c) :: c.chain
  | f => [f]

def isPropertyLink : Failure → Bool
  | .property .. => true
  | _ => false

def isRefusedLink : Failure → Bool
  | .refused .. => true
  | _ => false

def reportKind? : Failure → Option (Phase × Kind)
  | .report p k .. => some (p, k)
  | _ => none

/-- Phase and kind of the outermost report in the chain. -/
def firstReport? (f : Failure) : Option (Phase × Kind) := f.chain.findSome? reportKind?

def isPropertyResolution (f : Failure) : Bool := f.chain.any isPropertyLink

def isConnectionRefused (f : Failure) : Bool := f.chain.any isRefusedLink

def hasKind (f : Failure) (k : Kind) : Bool := (f.firstReport?.map (·.2)) == some k

def isPluginAbsent (f : Failure) : Bool := f.hasKind .pluginAbsent

def isConfigParse (f : Failure) : Bool := f.hasKind .configParse

/-- Whether one link is of the same sort as the target: plain failures by their wording, reports
by phase and kind, the other two by being of that sort. -/
def linkMatches : Failure → Failure → Bool
  | .plain s, .plain t => s == t
  | .report p k .., .report p' k' .. => p == p' && k == k'
  | .property .., .property .. => true
  | .refused .., .refused .. => true
  | _, _ => false

/-- Whether some link of the chain is of the target's sort. -/
def is (f target : Failure) : Bool := f.chain.any (linkMatches · target)

end PageBoot.Failure
