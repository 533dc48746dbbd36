/-
This file embeds how the page of an extraction analysis lays out the XML of a record. The layout changes
nothing but white space, and it puts every tag and every text on a line of its own at its depth.
-/

import Mathlib.Data.List.DropRight
import Mathlib.Data.List.TakeWhile

namespace OperationsConsole.Browser.Xml

abbrev Text := List Char

section Layout

/-- The white space of the language. -/
def isBlank (char : Char) : Bool :=
  char.toNat ∈ [0x09, 0x0a, 0x0b, 0x0c, 0x0d, 0x20, 0xa0, 0x1680, 0x2028, 0x2029, 0x202f, 0x205f,
    0x3000, 0xfeff] || 0x2000 ≤ char.toNat && char.toNat ≤ 0x200a

def trim (text : Text) : Text := (text.dropWhile isBlank).rdropWhile isBlank

/-- The white space between a `>` and the next `<` is removed. -/
def dropGaps : Text → Text
  | [] => []
  | char :: rest =>
      if char = '>' ∧ (rest.dropWhile isBlank).head? = some '<' then
        char :: (dropGaps rest).dropWhile isBlank
      else char :: dropGaps rest

/-- A tag reaches to the next `>`, and it is not empty. -/
def tagAt : Text → Option (Text × Text)
  | '<' :: rest =>
      match rest.takeWhile (· ≠ '>'), rest.dropWhile (· ≠ '>') with
      | first :: body, _ :: after => some ('<' :: first :: (body ++ ['>']), after)
      | _, _ => none
  | _ => none

/-- A tag that is found stands at the start, and the text after it is shorter. -/
theorem tagAt_append (text tag after : Text) (found : tagAt text = some (tag, after)) :
    text = tag ++ after ∧ after.length < text.length := by
  unfold tagAt at found
  split at found
  · rename_i rest
    split at found
    · rename_i first body sign later inside outside
      have closing : sign = '>' := by
        have stop := List.head?_dropWhile_not (· ≠ '>') rest
        rw [outside] at stop
        simpa using stop
      have whole := List.takeWhile_append_dropWhile (p := (· ≠ '>')) (l := rest)
      rw [inside, outside] at whole
      injection found with pair
      injection pair with tagSame afterSame
      rw [← tagSame, ← afterSame, ← whole, closing]
      constructor
      · simp
      · simp only [List.length_cons, List.length_append]
        omega
    · exact nomatch found
  · exact nomatch found

/-- The tags stand between texts, each before the text that follows it. -/
def splitTags (text : Text) : Text × List (Text × Text) :=
  match _found : tagAt text with
  | some (tag, after) => ([], (tag, (splitTags after).1) :: (splitTags after).2)
  | none =>
      match text with
      | [] => ([], [])
      | char :: rest => (char :: (splitTags rest).1, (splitTags rest).2)
termination_by text.length
decreasing_by
  · exact (tagAt_append _ _ _ ‹_›).2
  · simp

/-- The parts are the texts and the tags in their order. -/
def parts (split : Text × List (Text × Text)) : List Text :=
  split.1 :: split.2.flatMap fun tagged => [tagged.1, tagged.2]

def line (indent : ℕ) (part : Text) : Text := List.replicate (2 * indent) ' ' ++ (part ++ ['\n'])

structure Layout where
  indent : ℕ
  formatted : Text

def startsWith (text : Text) (start : String) : Bool := start.toList.isPrefixOf text

def endsWith (text : Text) (ending : String) : Bool := ending.toList.isSuffixOf text

/-- Only an opening tag moves the following parts to the right. -/
def Layout.step (layout : Layout) (part : Text) : Layout :=
  if trim part = [] then layout
  else if startsWith part "</" then
    ⟨layout.indent - 1, layout.formatted ++ line (layout.indent - 1) part⟩
  else if startsWith part "<" && !startsWith part "<?" && !endsWith part "/>" &&
      !startsWith part "<!" then
    ⟨layout.indent + 1, layout.formatted ++ line layout.indent part⟩
  else ⟨layout.indent, layout.formatted ++ line layout.indent part⟩

def prettyPrintXml (xml : Text) : Text :=
  trim ((parts (splitTags (dropGaps xml))).foldl Layout.step ⟨0, []⟩).formatted

end Layout

section Content

/-- The characters that are not white space. -/
def ink (text : Text) : Text := text.filter fun char => !isBlank char

theorem ink_append (first second : Text) : ink (first ++ second) = ink first ++ ink second :=
  List.filter_append ..

/-- Blanks at the start have no ink. -/
theorem ink_dropWhile (text : Text) : ink (text.dropWhile isBlank) = ink text := by
  induction text with
  | nil => rfl
  | cons char rest ih =>
      by_cases blank : isBlank char = true
      · rw [List.dropWhile_cons_of_pos blank, ih, ink, ink,
          List.filter_cons_of_neg (by simpa using blank)]
      · rw [List.dropWhile_cons_of_neg blank]

theorem ink_reverse (text : Text) : ink text.reverse = (ink text).reverse := List.filter_reverse

/-- Trimming takes no ink away. -/
theorem ink_trim (text : Text) : ink (trim text) = ink text := by
  rw [trim, List.rdropWhile, ink_reverse, ink_dropWhile, ink_reverse, List.reverse_reverse,
    ink_dropWhile]

/-- A text of blanks only has no ink. -/
theorem ink_of_trim (text : Text) (empty : trim text = []) : ink text = [] := by
  rw [← ink_trim, empty]
  rfl

/-- The gaps between tags have no ink. -/
theorem ink_dropGaps (text : Text) : ink (dropGaps text) = ink text := by
  induction text with
  | nil => rfl
  | cons char rest ih =>
      have head (later : Text) : ink (char :: later) = ink [char] ++ ink later :=
        ink_append [char] later
      rw [dropGaps]
      split
      · rw [head, head rest, ink_dropWhile, ih]
      · rw [head, head rest, ih]

/-- The parts make up the text. -/
theorem flatten_splitTags (text : Text) : (parts (splitTags text)).flatten = text := by
  induction text using splitTags.induct with
  | case1 text tag after found ih =>
      rw [splitTags]
      split
      · rename_i other later same
        rw [found] at same
        injection same with pair
        injection pair with tags rests
        rw [(tagAt_append text tag after found).1, ← tags, ← rests]
        simpa [parts] using ih
      · rename_i none
        rw [found] at none
        exact nomatch none
  | case2 found =>
      rw [splitTags]
      rfl
  | case3 char rest found ih =>
      rw [splitTags]
      split
      · rename_i some
        rw [found] at some
        exact nomatch some
      · simpa [parts] using ih

/-- The indentation of a line has no ink. -/
theorem ink_line (indent : ℕ) (part : Text) : ink (line indent part) = ink part := by
  have spaces : ink (List.replicate (2 * indent) ' ') = [] :=
    List.filter_replicate_of_neg (by decide)
  have newline : ink ['\n'] = [] := rfl
  rw [line, ink_append, ink_append, spaces, newline, List.append_nil, List.nil_append]

/-- One step writes the ink of its part. -/
theorem ink_step (layout : Layout) (part : Text) :
    ink (layout.step part).formatted = ink layout.formatted ++ ink part := by
  unfold Layout.step
  split_ifs with blank
  · rw [ink_of_trim part blank, List.append_nil]
  all_goals rw [ink_append, ink_line]

/-- All steps write the ink of all parts, in order. -/
theorem ink_foldl (parts : List Text) (layout : Layout) :
    ink (parts.foldl Layout.step layout).formatted = ink layout.formatted ++ ink parts.flatten := by
  induction parts generalizing layout with
  | nil => exact (List.append_nil _).symm
  | cons part parts ih =>
      rw [List.foldl_cons, ih, ink_step, List.flatten_cons, ink_append, List.append_assoc]

/-- The layout keeps every character that is not white space, in its place among the others. -/
theorem prettyPrintXml_ink (xml : Text) : ink (prettyPrintXml xml) = ink xml := by
  rw [prettyPrintXml, ink_trim, ink_foldl, flatten_splitTags, ink_dropGaps]
  rfl

end Content

section Documents

/-- A text between tags has no sign of a tag. -/
structure Chars where
  text : Text
  plain : '<' ∉ text ∧ '>' ∉ text

/-- A tag has something between its signs. -/
structure Tag where
  body : Text
  filled : body ≠ []
  plain : '>' ∉ body

def Tag.text (tag : Tag) : Text := '<' :: (tag.body ++ ['>'])

inductive Kind where
  | opening
  | closing
  | leaf
  deriving DecidableEq

/-- Declarations and comments have no content, and neither have tags that close themselves. -/
def Tag.kind (tag : Tag) : Kind :=
  if tag.body.head? = some '/' then .closing
  else if tag.body.head? = some '?' ∨ tag.body.head? = some '!' ∨ tag.body.getLast? = some '/' then .leaf
  else .opening

/-- An element has nodes between its tags, each after a text, and a last text. -/
inductive Node where
  | leaf (tag : Tag) (kind : tag.kind = .leaf)
  | element (opening : Tag) (opens : opening.kind = .opening) (children : List (Chars × Node))
      (last : Chars) (closing : Tag) (closes : closing.kind = .closing)

structure Document where
  children : List (Chars × Node)
  last : Chars

mutual

def Node.render : Node → Text
  | .leaf tag _ => tag.text
  | .element opening _ children last closing _ =>
      opening.text ++ (renderNodes children ++ (last.text ++ closing.text))

def renderNodes : List (Chars × Node) → Text
  | [] => []
  | child :: rest => renderChild child ++ renderNodes rest

def renderChild : Chars × Node → Text
  | (text, node) => text.text ++ node.render

end

def Document.render (document : Document) : Text :=
  renderNodes document.children ++ document.last.text

/-- White space alone gets no line. -/
def Chars.line (text : Chars) (depth : ℕ) : Text :=
  if trim text.text = [] then [] else Xml.line depth text.text

mutual

/-- Every part stands on a line at its depth. -/
def Node.lines (depth : ℕ) : Node → Text
  | .leaf tag _ => line depth tag.text
  | .element opening _ children last closing _ =>
      line depth opening.text ++ (linesOf (depth + 1) children ++
        (last.line (depth + 1) ++ line depth closing.text))

def linesOf (depth : ℕ) : List (Chars × Node) → Text
  | [] => []
  | child :: rest => childLines depth child ++ linesOf depth rest

def childLines (depth : ℕ) : Chars × Node → Text
  | (text, node) => text.line depth ++ node.lines depth

end

def Document.lines (document : Document) : Text :=
  linesOf 0 document.children ++ document.last.line 0

end Documents

section Streams

/-- The texts and tags of a part of a document, in their order. -/
structure Stream where
  first : Chars
  tagged : List (Tag × Chars)

def taggedText (tagged : List (Tag × Chars)) : Text :=
  tagged.flatMap fun pair => pair.1.text ++ pair.2.text

def Stream.text (stream : Stream) : Text := stream.first.text ++ taggedText stream.tagged

def Stream.parts (stream : Stream) : List Text :=
  stream.first.text :: stream.tagged.flatMap fun pair => [pair.1.text, pair.2.text]

mutual

/-- The tags and texts of a node stand before those that follow it. -/
def Node.stream (after : Stream) : Node → List (Tag × Chars)
  | .leaf tag _ => (tag, after.first) :: after.tagged
  | .element opening _ children last closing _ =>
      let inside := streamOf ⟨last, (closing, after.first) :: after.tagged⟩ children
      (opening, inside.first) :: inside.tagged

def streamOf (after : Stream) : List (Chars × Node) → Stream
  | [] => after
  | child :: rest => childStream (streamOf after rest) child

def childStream (after : Stream) : Chars × Node → Stream
  | (text, node) => ⟨text, node.stream after⟩

end

def Document.stream (document : Document) : Stream := streamOf ⟨document.last, []⟩ document.children

theorem taggedText_cons (tag : Tag) (next : Chars) (tagged : List (Tag × Chars)) :
    taggedText ((tag, next) :: tagged) = tag.text ++ (next.text ++ taggedText tagged) := by
  rw [taggedText, List.flatMap_cons, List.append_assoc]
  rfl

mutual

/-- The stream of a node has the text of the node. -/
theorem Node.taggedText_stream (after : Stream) :
    ∀ node : Node, taggedText (node.stream after) = node.render ++ after.text
  | .leaf tag _ => by
      rw [Node.stream, taggedText_cons, Node.render]
      rfl
  | .element opening _ children last closing _ => by
      have inside := text_streamOf ⟨last, (closing, after.first) :: after.tagged⟩ children
      rw [Stream.text] at inside
      rw [Node.stream, taggedText_cons, inside, Stream.text, taggedText_cons, Node.render,
        Stream.text]
      simp only [List.append_assoc]

/-- The stream of a list of nodes has the text of the nodes. -/
theorem text_streamOf (after : Stream) :
    ∀ nodes : List (Chars × Node), (streamOf after nodes).text = renderNodes nodes ++ after.text
  | [] => by
      rw [streamOf, renderNodes, List.nil_append]
  | child :: rest => by
      rw [streamOf, text_childStream, text_streamOf after rest, renderNodes, List.append_assoc]

/-- The stream of a child has the text of the child. -/
theorem text_childStream (after : Stream) :
    ∀ child : Chars × Node, (childStream after child).text = renderChild child ++ after.text
  | (text, node) => by
      rw [childStream, Stream.text, Node.taggedText_stream after node, renderChild, List.append_assoc]

end

/-- The texts and tags of a document make up its text. -/
theorem Document.text_stream (document : Document) : document.stream.text = document.render := by
  rw [Document.stream, text_streamOf, Document.render, Stream.text]
  simp [taggedText]

end Streams

section Steps

/-- Nothing is left of a text exactly if it is blank. -/
theorem all_of_dropWhile (text : Text) :
    text.dropWhile isBlank = [] ↔ ∀ char ∈ text, isBlank char = true :=
  List.dropWhile_eq_nil_iff

/-- Nothing is left of a trimmed text exactly if it is blank. -/
theorem trim_eq_nil_iff (text : Text) : trim text = [] ↔ ∀ char ∈ text, isBlank char = true := by
  rw [trim, List.rdropWhile_eq_nil_iff]
  constructor
  · intro all
    rw [← all_of_dropWhile]
    by_contra filled
    have head := List.head_dropWhile_not isBlank filled
    rw [all _ (List.head_mem filled)] at head
    exact absurd head (by decide)
  · intro all char member
    exact all char ((List.dropWhile_sublist isBlank).subset member)

variable (layout : Layout)

/-- A blank part writes no line. -/
theorem step_blank (part : Text) (blank : trim part = []) : layout.step part = layout :=
  if_pos blank

/-- A text gets its line without moving the others. -/
theorem step_chars (text : Chars) : layout.step text.text =
    ⟨layout.indent, layout.formatted ++ text.line layout.indent⟩ := by
  by_cases blank : trim text.text = []
  · rw [step_blank layout _ blank, Chars.line, if_pos blank, List.append_nil]
  · have start (ending : List Char) : ('<' :: ending).isPrefixOf text.text = false := by
      rw [← Bool.not_eq_true, List.isPrefixOf_iff_prefix]
      rintro ⟨rest, same⟩
      exact text.plain.1 (same ▸ List.mem_cons_self)
    have closing : startsWith text.text "</" = false := start ['/']
    have opening : startsWith text.text "<" = false := start []
    rw [Layout.step, if_neg blank, closing, opening, Chars.line, if_neg blank]
    rfl

/-- A tag is never blank. -/
theorem Tag.trim_ne_nil (tag : Tag) : trim tag.text ≠ [] := by
  intro empty
  have sign := (trim_eq_nil_iff tag.text).mp empty '<' List.mem_cons_self
  exact absurd sign (by decide)

/-- The sign after the opening bracket of a tag is the first of its body. -/
theorem Tag.startsWith_pair (tag : Tag) (second : Char) :
    ['<', second].isPrefixOf tag.text = true ↔ tag.body.head? = some second := by
  obtain ⟨body, filled, plain⟩ := tag
  cases body with
  | nil => exact absurd rfl filled
  | cons first rest =>
      simp only [Tag.text, List.cons_append, List.isPrefixOf_cons_cons_self, List.head?_cons,
        Option.some.injEq]
      rw [List.isPrefixOf_iff_prefix, List.prefix_cons_iff]
      constructor
      · rintro (none | ⟨rest, same, _⟩)
        · exact nomatch none
        · exact (List.cons.inj same).1.symm
      · rintro rfl
        exact .inr ⟨[], rfl, List.nil_prefix⟩

/-- A tag closes itself exactly if its body ends with a slash. -/
theorem Tag.endsWith_slash (tag : Tag) :
    endsWith tag.text "/>" = true ↔ tag.body.getLast? = some '/' := by
  obtain ⟨body, filled, plain⟩ := tag
  rcases List.eq_nil_or_concat body with rfl | ⟨init, last, rfl⟩
  · exact absurd rfl filled
  · have split : Tag.text ⟨init.concat last, filled, plain⟩ = ('<' :: init) ++ [last, '>'] := by
      simp [Tag.text]
    have slash : "/>".toList = ['/', '>'] := rfl
    have final : (init.concat last).getLast? = some last := by
      rw [List.concat_eq_append, List.getLast?_concat]
    rw [endsWith, split, slash, List.isSuffixOf_iff_suffix]
    change _ ↔ (init.concat last).getLast? = some '/'
    rw [final, Option.some.injEq]
    constructor
    · rintro ⟨before, same⟩
      have ends := List.append_inj_right' same rfl
      exact (List.cons.inj ends).1.symm
    · rintro rfl
      exact ⟨'<' :: init, rfl⟩

/-- A tag gets its line, and the tags of an element move the lines between them. -/
theorem step_tag (tag : Tag) : layout.step tag.text =
    match tag.kind with
    | .closing => ⟨layout.indent - 1, layout.formatted ++ line (layout.indent - 1) tag.text⟩
    | .opening => ⟨layout.indent + 1, layout.formatted ++ line layout.indent tag.text⟩
    | .leaf => ⟨layout.indent, layout.formatted ++ line layout.indent tag.text⟩ := by
  have slash := tag.startsWith_pair '/'
  have mark := tag.startsWith_pair '?'
  have bang := tag.startsWith_pair '!'
  have ending := tag.endsWith_slash
  have sign : startsWith tag.text "<" = true := rfl
  have starts (second : Char) (text : String) (same : text.toList = ['<', second]) :
      startsWith tag.text text = ['<', second].isPrefixOf tag.text := by
    rw [startsWith, same]
  rw [Layout.step, if_neg tag.trim_ne_nil, sign, starts '/' "</" rfl, starts '?' "<?" rfl,
    starts '!' "<!" rfl]
  simp only [Tag.kind, ← slash, ← mark, ← bang, ← ending]
  cases ['<', '/'].isPrefixOf tag.text
  · cases ['<', '?'].isPrefixOf tag.text <;> cases ['<', '!'].isPrefixOf tag.text <;>
      cases endsWith tag.text "/>" <;> rfl
  · rfl

end Steps

section Runs

def Layout.run (layout : Layout) (stream : Stream) : Layout :=
  stream.parts.foldl Layout.step layout

theorem run_cons (layout : Layout) (first next : Chars) (tag : Tag) (tagged : List (Tag × Chars)) :
    layout.run ⟨first, (tag, next) :: tagged⟩ =
      ((layout.step first.text).step tag.text).run ⟨next, tagged⟩ := rfl

mutual

/-- The lines of a node follow the text before it, and the depth is the same after it. -/
theorem Node.run_stream (after : Stream) (first : Chars) (depth : ℕ) (formatted : Text) :
    ∀ node : Node, (Layout.mk depth formatted).run ⟨first, node.stream after⟩ =
      (Layout.mk depth (formatted ++ (first.line depth ++ node.lines depth))).run after
  | .leaf tag kind => by
      rw [Node.stream, run_cons, step_chars, step_tag, kind, Node.lines]
      dsimp only
      rw [List.append_assoc]
  | .element opening opens children last closing closes => by
      have inside := run_streamOf ⟨last, (closing, after.first) :: after.tagged⟩ (depth + 1)
        (formatted ++ (first.line depth ++ line depth opening.text)) children
      rw [Node.stream, run_cons, step_chars, step_tag, opens]
      dsimp only
      rw [List.append_assoc]
      refine inside.trans ?_
      rw [run_cons, step_chars, step_tag, closes, Node.lines]
      simp only [List.append_assoc, Nat.add_sub_cancel]

/-- The layout writes the lines of the nodes, and then it is at the same depth. -/
theorem run_streamOf (after : Stream) (depth : ℕ) (formatted : Text) :
    ∀ nodes : List (Chars × Node), (Layout.mk depth formatted).run (streamOf after nodes) =
      (Layout.mk depth (formatted ++ linesOf depth nodes)).run after
  | [] => by
      rw [streamOf, linesOf, List.append_nil]
  | child :: rest => by
      rw [streamOf, run_childStream (streamOf after rest) depth formatted child,
        run_streamOf after depth _ rest, linesOf, List.append_assoc]

/-- The layout writes the lines of a child, and then it is at the same depth. -/
theorem run_childStream (after : Stream) (depth : ℕ) (formatted : Text) :
    ∀ child : Chars × Node, (Layout.mk depth formatted).run (childStream after child) =
      (Layout.mk depth (formatted ++ childLines depth child)).run after
  | (text, node) => by
      rw [childStream, Node.run_stream after text depth formatted node, childLines]

end

/-- The parts of a document get its lines. -/
theorem Document.run_stream (document : Document) :
    ((Layout.mk 0 []).run document.stream).formatted = document.lines := by
  rw [Document.stream, run_streamOf]
  change (Layout.step _ document.last.text).formatted = _
  rw [step_chars, Document.lines, List.nil_append]

end Runs

section Reading

def Chars.empty : Chars := ⟨[], List.not_mem_nil, List.not_mem_nil⟩

/-- White space between two tags is removed, and the last text stays. -/
def squeezed : List (Tag × Chars) → List (Tag × Chars)
  | [] => []
  | [pair] => [pair]
  | (tag, next) :: other :: rest =>
      (tag, if trim next.text = [] then .empty else next) :: squeezed (other :: rest)

/-- There is no gap in a text without a closing bracket. -/
theorem dropGaps_append (text rest : Text) (plain : '>' ∉ text) :
    dropGaps (text ++ rest) = text ++ dropGaps rest := by
  induction text with
  | nil => rfl
  | cons char text ih =>
      rw [List.mem_cons, not_or] at plain
      rw [List.cons_append, dropGaps, if_neg fun gap => plain.1 gap.1.symm, ih plain.2]
      rfl

/-- There is no gap inside a tag. -/
theorem dropGaps_tag (tag : Tag) (rest : Text) :
    dropGaps (tag.text ++ rest) = '<' :: (tag.body ++ dropGaps ('>' :: rest)) := by
  have split : tag.text ++ rest = ('<' :: tag.body) ++ ('>' :: rest) := by simp [Tag.text]
  have plain : '>' ∉ '<' :: tag.body := by
    rw [List.mem_cons, not_or]
    exact ⟨by decide, tag.plain⟩
  rw [split, dropGaps_append _ _ plain]
  rfl

/-- A text with ink stands between two tags. -/
theorem dropWhile_chars (text : Chars) (rest : Text) (filled : trim text.text ≠ []) :
    ((text.text ++ rest).dropWhile isBlank).head? ≠ some '<' := by
  have kept : text.text.dropWhile isBlank ≠ [] := fun empty =>
    filled ((trim_eq_nil_iff _).mpr ((all_of_dropWhile _).mp empty))
  intro same
  rw [List.dropWhile_append, if_neg (by simpa using kept), List.head?_append_of_ne_nil _ kept] at same
  exact text.plain.1 ((List.dropWhile_sublist isBlank).subset (List.mem_of_mem_head? same))

/-- A tag keeps its text, or it loses white space before another tag. -/
theorem dropGaps_closing (next : Chars) (tag : Tag) (rest : Text) :
    dropGaps ('>' :: (next.text ++ (tag.text ++ rest))) =
      '>' :: ((if trim next.text = [] then Chars.empty else next).text ++
        dropGaps (tag.text ++ rest)) := by
  have start (later : Text) : ('<' :: later).dropWhile isBlank = '<' :: later :=
    List.dropWhile_cons_of_neg (by decide)
  rw [dropGaps, dropGaps_append _ _ next.plain.2]
  by_cases blank : trim next.text = []
  · have all := (trim_eq_nil_iff next.text).mp blank
    have gap : ((next.text ++ (tag.text ++ rest)).dropWhile isBlank).head? = some '<' := by
      rw [List.dropWhile_append_of_pos all]
      change (('<' :: _).dropWhile isBlank).head? = _
      rw [start]
      rfl
    rw [if_pos ⟨rfl, gap⟩, if_pos blank, List.dropWhile_append_of_pos all, dropGaps_tag, start]
    rfl
  · rw [if_neg fun gap => dropWhile_chars next _ blank gap.2, if_neg blank]

/-- The text after the last tag is no gap. -/
theorem dropGaps_last (last : Chars) : dropGaps ('>' :: last.text) = '>' :: last.text := by
  have whole := dropGaps_append last.text [] last.plain.2
  rw [List.append_nil] at whole
  have apart : ¬(last.text.dropWhile isBlank).head? = some '<' := fun same =>
    last.plain.1 ((List.dropWhile_sublist isBlank).subset (List.mem_of_mem_head? same))
  rw [dropGaps, if_neg fun gap => apart gap.2, whole]
  simp [dropGaps]

/-- Dropping the gaps empties the blank texts between the tags. -/
theorem dropGaps_tagged (tagged : List (Tag × Chars)) :
    dropGaps (taggedText tagged) = taggedText (squeezed tagged) := by
  induction tagged using squeezed.induct with
  | case1 => rfl
  | case2 pair =>
      obtain ⟨tag, last⟩ := pair
      rw [squeezed, taggedText_cons, dropGaps_tag]
      simp [taggedText, dropGaps_last, Tag.text]
  | case3 tag next other rest ih =>
      obtain ⟨tag', next'⟩ := other
      rw [squeezed, taggedText_cons, dropGaps_tag, taggedText_cons, dropGaps_closing,
        ← taggedText_cons, ih, taggedText_cons]
      simp [Tag.text]

/-- A character that opens no tag belongs to the text before the next tag. -/
theorem splitTags_none (char : Char) (rest : Text) (other : char ≠ '<') :
    splitTags (char :: rest) = (char :: (splitTags rest).1, (splitTags rest).2) := by
  have none : tagAt (char :: rest) = none := by
    unfold tagAt
    split
    · rename_i same
      exact absurd (List.cons.inj same).1 other
    · rfl
  rw [splitTags]
  split
  · rename_i found
    rw [none] at found
    exact nomatch found
  · rfl

/-- A text without an opening bracket belongs to the text before the next tag. -/
theorem splitTags_chars (text rest : Text) (plain : '<' ∉ text) :
    splitTags (text ++ rest) = (text ++ (splitTags rest).1, (splitTags rest).2) := by
  induction text with
  | nil => rfl
  | cons char text ih =>
      rw [List.mem_cons, not_or] at plain
      rw [List.cons_append, splitTags_none _ _ (Ne.symm plain.1), ih plain.2]
      rfl

/-- A tag is found where it is written. -/
theorem tagAt_tag (tag : Tag) (rest : Text) : tagAt (tag.text ++ rest) = some (tag.text, rest) := by
  obtain ⟨body, filled, plain⟩ := tag
  have inside : ∀ char ∈ body, decide (char ≠ '>') = true := by
    intro char member
    rw [decide_eq_true_eq]
    rintro rfl
    exact plain member
  have split : Tag.text ⟨body, filled, plain⟩ ++ rest = '<' :: (body ++ ('>' :: rest)) := by
    simp [Tag.text]
  rw [split, tagAt, List.takeWhile_append_of_pos inside, List.dropWhile_append_of_pos inside]
  cases body with
  | nil => exact absurd rfl filled
  | cons first body => simp [Tag.text]

/-- A written tag is one tag of the split. -/
theorem splitTags_tag (tag : Tag) (rest : Text) : splitTags (tag.text ++ rest) =
    ([], (tag.text, (splitTags rest).1) :: (splitTags rest).2) := by
  rw [splitTags]
  split
  · rename_i found
    rw [tagAt_tag] at found
    injection found with pair
    injection pair with tags rests
    rw [← tags, ← rests]
  · rename_i found
    rw [tagAt_tag] at found
    exact nomatch found

/-- The tags of a stream are found again. -/
theorem splitTags_stream (first : Chars) (tagged : List (Tag × Chars)) :
    splitTags (first.text ++ taggedText tagged) =
      (first.text, tagged.map fun pair => (pair.1.text, pair.2.text)) := by
  induction tagged generalizing first with
  | nil =>
      have none : splitTags [] = ([], []) := by
        rw [splitTags]
        rfl
      rw [taggedText, List.flatMap_nil, splitTags_chars _ _ first.plain.1, none, List.append_nil]
      rfl
  | cons pair tagged ih =>
      obtain ⟨tag, next⟩ := pair
      rw [splitTags_chars _ _ first.plain.1, taggedText_cons, splitTags_tag, ih next,
        List.append_nil]
      rfl

/-- The blank texts between the tags change nothing in the layout. -/
theorem run_squeezed (layout : Layout) (first : Chars) (tagged : List (Tag × Chars)) :
    layout.run ⟨first, squeezed tagged⟩ = layout.run ⟨first, tagged⟩ := by
  induction tagged using squeezed.induct generalizing layout first with
  | case1 => rfl
  | case2 pair => rfl
  | case3 tag next other rest ih =>
      rw [squeezed, run_cons, run_cons, ih]
      obtain ⟨tag', next'⟩ := other
      rw [run_cons, run_cons]
      by_cases blank : trim next.text = []
      · rw [if_pos blank, step_blank _ next.text blank]
        rfl
      · rw [if_neg blank]

/-- A document is laid out with each tag and each text on a line at its depth. -/
theorem prettyPrintXml_render (document : Document) :
    prettyPrintXml document.render = trim document.lines := by
  obtain ⟨first, tagged, stream⟩ : ∃ first tagged, document.stream = ⟨first, tagged⟩ :=
    ⟨_, _, rfl⟩
  have text := document.text_stream
  have run := document.run_stream
  rw [stream] at text run
  rw [prettyPrintXml, ← text, Stream.text, dropGaps_append _ _ first.plain.2, dropGaps_tagged,
    splitTags_stream, ← run, ← run_squeezed]
  simp [Layout.run, Stream.parts, parts, List.flatMap_map]

end Reading

end OperationsConsole.Browser.Xml
