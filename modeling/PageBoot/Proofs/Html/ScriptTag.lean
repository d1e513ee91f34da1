import PageBoot.Html.Parse

/-!
Reading the markup of a script that has nothing but an id. If the id has no quote in it, the markup is
one element, whose id is what a quoted value reads as; references and line ends in it are replaced, so
that it need not be the id that was written.
-/

namespace PageBoot.Html

open Token

/-- A script that has nothing but an id, as it is written. -/
def scriptTag (id : Text) : Text := "<script id=\"" ++ id ++ "\"></script>"

/-- What a quoted value reads as. -/
def readQuoted (value : Text) : Text := Reference.decode true (unifyLines value)

theorem unifyLines_of_not_mem {t : Text} (h : 13 ∉ t) : unifyLines t = t := by
  induction t with
  | nil => rfl
  | cons b t ih =>
    have hb : 13 ≠ b := List.ne_of_not_mem_cons h
    have ht : 13 ∉ t := List.not_mem_of_not_mem_cons h
    rw [unifyLines, ih ht]
    · exact fun _ hb' => (hb hb'.symm).elim
    · exact fun hb' => hb hb'.symm

theorem decode_of_not_mem {t : Text} (h : 38 ∉ t) (inAttribute : Bool) :
    Reference.decode inAttribute t = t := by
  unfold Reference.decode
  induction t with
  | nil => rfl
  | cons b t ih =>
    have hb : 38 ≠ b := List.ne_of_not_mem_cons h
    have ht : 38 ∉ t := List.not_mem_of_not_mem_cons h
    have hread : Reference.read? inAttribute (b :: t) = none := by
      unfold Reference.read?
      split
      next heq => exact (hb (List.cons.inj heq).1.symm).elim
      next heq => exact (hb (List.cons.inj heq).1.symm).elim
      next => rfl
    rw [Reference.decodeFrom, hread, ih ht]

/-- A value without references and line ends reads as it was written. -/
theorem readQuoted_eq_self {value : Text} (hreference : 38 ∉ value) (hline : 13 ∉ value) :
    readQuoted value = value := by
  rw [readQuoted, unifyLines_of_not_mem hline, decode_of_not_mem hreference]

/-! ## Tokens -/

section Tokens

variable {id : Text}

theorem readValue_quote (t : Text) :
    readValue (61 :: 34 :: t) =
      match t.drop (t.takeWhile (· != 34)).length with
      | [] => none
      | _ :: rest => some (t.takeWhile (· != 34), rest) := rfl

/-- A quoted value ends at the next quote. -/
theorem readValue_quoted (hid : 34 ∉ id) (rest : Text) :
    readValue (61 :: 34 :: (id ++ 34 :: rest)) = some (id, rest) := by
  have hall : ∀ b ∈ id, (b != 34) = true := by
    intro b hb
    simp only [bne_iff_ne]
    rintro rfl
    exact hid hb
  have htake : (id ++ 34 :: rest).takeWhile (· != 34) = id := by
    rw [List.takeWhile_append_of_pos hall]
    simp
  have hdrop : (id ++ 34 :: rest).drop id.length = 34 :: rest := List.drop_left
  rw [readValue_quote, htake, hdrop]

theorem readAttributes_first (n : Nat) (rest : Text) :
    readAttributes (n + 2) (" id=\"" ++ id ++ ("\">" ++ rest)) =
      match readValue (61 :: 34 :: (id ++ 34 :: 62 :: rest)) with
      | none => none
      | some (v, t) => (readAttributes (n + 1) t).map fun (as, t) =>
        ((⟨"id", readQuoted v, []⟩ : Attribute) :: as, t) := rfl

theorem readAttributes_id (hid : 34 ∉ id) (n : Nat) (rest : Text) :
    readAttributes (n + 2) (" id=\"" ++ id ++ ("\">" ++ rest)) =
      some ([⟨"id", readQuoted id, []⟩], rest) := by
  rw [readAttributes_first, readValue_quoted hid]
  rfl

theorem next?_scriptTag (hid : 34 ∉ id) :
    ∃ selfClosing, next? none false (scriptTag id) =
      some (.start "script" [⟨"id", readQuoted id, []⟩] selfClosing, Text.ofString "</script>") := by
  let rest : Text := " id=\"" ++ id ++ ("\">" ++ "</script>")
  have hread : readAttributes (rest.length + 1) rest =
      some ([(⟨"id", readQuoted id, []⟩ : Attribute)], Text.ofString "</script>") :=
    readAttributes_id hid _ _
  have hnext : next? none false (scriptTag id) =
      (readAttributes (rest.length + 1) rest).map fun r =>
        (Token.start "script" r.1 (endsWithSlash ("script" ++ rest) r.2), r.2) := rfl
  rw [hread] at hnext
  exact ⟨_, hnext⟩

end Tokens

/-! ## The builder -/

namespace Builder

def rootOpen : Open := { id := 0, space := .html, tag := "html" }

/-- About to read the contents of a body. -/
def atBody : Builder :=
  { tree := .tree 0 rootOpen.label, next := 1, stack := [rootOpen], context := some "body", mode := .inBody }

section Steps

variable (attrs : List Attribute)

/-- Inside a script that is the first thing in a body. -/
def insideScript : Builder :=
  let script : Open := { id := 1, space := .html, tag := "script", attrs }
  { atBody with
    tree := .tree 0 rootOpen.label (.tree 1 script.label), next := 2, stack := [script, rootOpen]
    mode := .text, returnMode := .inBody }

def behindScript : Builder := { insideScript attrs with stack := [rootOpen], mode := .inBody }

theorem feed_start (selfClosing : Bool) :
    atBody.feed (some (.start "script" attrs selfClosing)) = insideScript attrs := rfl

theorem feed_close : (insideScript attrs).feed (some (.close "script")) = behindScript attrs := rfl

theorem feed_none : (behindScript attrs).feed none = behindScript attrs := rfl

end Steps

/-- One token is read, among page elements. -/
theorem feedAll_token {b : Builder} {raw : Option Text} {t rest : Text} {tok : Token} (n : Nat)
    (hstack : b.stack.head?.map (·.space != .html) = some false) (hb : b.readMarkup = false)
    (hfed : (b.feed (some tok)).readMarkup = false) (hnext : next? raw false t = some (tok, rest)) :
    feedAll (n + 1) raw t b = feedAll n tok.rawTag? rest (b.feed (some tok)) := by
  have hsame : { b with readMarkup := false } = b := by
    rw [← hb]
  simp only [feedAll, hstack, Option.getD_some, hnext, hsame, hfed, Bool.false_eq_true, if_false]

/-- Start tag, end tag and end of the input. -/
theorem read_scriptTag {id : Text} (hid : 34 ∉ id) :
    atBody.read (scriptTag id) = behindScript [⟨"id", readQuoted id, []⟩] := by
  obtain ⟨selfClosing, hstart⟩ := next?_scriptTag hid
  obtain ⟨n, hn⟩ : ∃ n, (scriptTag id).length = n + 1 := ⟨_, rfl⟩
  have hraw (attrs : List Attribute) :
      (Token.start "script" attrs selfClosing).rawTag? = some (Text.ofString "script") := rfl
  have hclose : next? (some (Text.ofString "script")) false "</script>" = some (.close "script", []) := rfl
  show feedAll ((scriptTag id).length + 2) none (scriptTag id) atBody = _
  rw [hn, feedAll_token _ rfl rfl rfl hstart, feed_start, hraw]
  rw [feedAll_token _ rfl rfl rfl hclose, feed_close]
  exact feed_none _

end Builder

theorem parseContents_body (first : NodeId) (markup : Text) : parseContents "body" first markup =
    .ofForest first ((Builder.atBody.read markup).tree.children 0) := rfl

/-- **The markup of a script with an id.** -/
theorem parseContents_scriptTag {id : Text} (hid : 34 ∉ id) (first : NodeId) :
    parseContents "body" first (scriptTag id) =
      ⟨.tree first (.element "script" [("id", readQuoted id)]), first + 1⟩ := by
  rw [parseContents_body, Builder.read_scriptTag hid]
  rfl

end PageBoot.Html
