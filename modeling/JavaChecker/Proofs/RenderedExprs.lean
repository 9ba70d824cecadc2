import JavaChecker.Expr.Render
import JavaChecker.Proofs.Regrouping
import JavaChecker.Proofs.RenderedTypes

/-!
# JavaChecker.Proofs.RenderedExprs

Expressions that read alike.

An `Outline` is what is left of an expression when the types of variables and literals are forgotten
and a class is only known by its name. The text of an expression says no more than its outline, and
less in one respect: it does not tell a call on an assignment from the assignment of the call.

So the text is read as a `Phrase`, which follows it from left to right: targets of assignments, a
word or a constructor call, and then the calls on it. Different phrases have different texts
(`Phrase.text_injective`), as long as no word in them is empty or has a mark in it (`Text.IsWord`):
a word ends where the first mark stands, and the marks behind it say how to go on. The outline of a
phrase is that of the regrouped expression (`outline_phrase`), and this makes the ambiguity exact.
-/

namespace JavaChecker

open Relation (ReflTransGen)

/-! ### Words -/

namespace Text

/-- The characters that separate words in the text of an expression. -/
def marks : List Char := [' ', '.', ',', '(', ')', '=']

/-- The text is not empty and has no mark in it. -/
def IsWord (text : String) : Prop := text ≠ "" ∧ ∀ c ∈ text.toList, c ∉ marks

theorem isWord_of_all {text : String} (hne : text ≠ "")
    (hall : (text.toList.all fun c => !marks.contains c) = true) : IsWord text :=
  ⟨hne, by simpa using hall⟩

theorem isWord_new : IsWord "new" := isWord_of_all (by decide) (by decide)

theorem isWord_null : IsWord "null" := isWord_of_all (by decide) (by decide)

/-- Nothing is left, or a mark comes next. -/
def AtMark (rest : List Char) : Prop := ∀ c ∈ rest.head?, c ∈ marks

/-- Nothing is left, or an argument ends here. -/
def AtEnd (rest : List Char) : Prop := ∀ c ∈ rest.head?, c = ',' ∨ c = ')'

theorem atEnd_nil : AtEnd [] := by
  simp [AtEnd]

theorem AtEnd.atMark {rest : List Char} (h : AtEnd rest) : AtMark rest := by
  intro c hc
  rcases h c hc with rfl | rfl
  · decide
  · decide

theorem atMark_blank {rest : List Char} : AtMark (' ' :: rest) := by
  simp [AtMark, marks]

theorem atMark_open {rest : List Char} : AtMark ('(' :: rest) := by
  simp [AtMark, marks]

theorem IsWord.inj {v w : String} {r s : List Char} (hv : IsWord v) (hw : IsWord w)
    (hr : AtMark r) (hs : AtMark s) (h : v.toList ++ r = w.toList ++ s) : v = w ∧ r = s := by
  obtain ⟨hword, hrest⟩ := append_inj_of_stops (p := (· ∉ marks)) hv.2 hw.2
    (fun c hc => not_not.mpr (hr c hc)) (fun c hc => not_not.mpr (hs c hc)) h
  exact ⟨String.toList_inj.mp hword, hrest⟩

/-- A word does not begin with a mark. -/
theorem IsWord.head_not_mem {w : String} (h : IsWord w) {c : Char} {r s : List Char}
    (heq : w.toList ++ r = c :: s) : c ∉ marks := by
  cases hw : w.toList with
  | nil => exact absurd (String.toList_eq_nil_iff.mp hw) h.1
  | cons d cs =>
      rw [hw] at heq
      cases heq
      exact h.2 c (by rw [hw]; exact List.mem_cons_self ..)

end Text

open Text (IsWord AtMark AtEnd atMark_blank atMark_open isWord_new isWord_null isWord_of_all)

/-! ### Phrases -/

mutual

/-- The text of an expression, from left to right. -/
inductive Phrase where
  /-- The target of an assignment, and what is assigned. -/
  | assign (name : String) (rhs : Phrase)
  /-- A word, and the calls on it. -/
  | word (text : String) (calls : Calls)
  /-- A constructor call, and the calls on it. -/
  | new (ty : String) (args : Phrases) (calls : Calls)

/-- Method calls, one on the result of the other. -/
inductive Calls where
  | none
  | call (method : String) (args : Phrases) (more : Calls)

/-- Arguments. -/
inductive Phrases where
  | nil
  | cons (first : Phrase) (more : Phrases)

end

mutual

def Phrase.text : Phrase → List Char
  | .assign name rhs => name.toList ++ ' ' :: '=' :: ' ' :: rhs.text
  | .word text calls => text.toList ++ calls.text
  | .new ty args calls => "new".toList ++ ' ' :: (ty.toList ++ '(' :: (args.text ++ calls.text))

def Calls.text : Calls → List Char
  | .none => []
  | .call method args more => '.' :: (method.toList ++ '(' :: (args.text ++ more.text))

/-- Arguments with the parenthesis that ends them. -/
def Phrases.text : Phrases → List Char
  | .nil => [')']
  | .cons first more => first.text ++ more.textAfter

/-- Further arguments with the parenthesis that ends them. -/
def Phrases.textAfter : Phrases → List Char
  | .nil => [')']
  | .cons first more => ',' :: ' ' :: (first.text ++ more.textAfter)

end

mutual

/-- No word of the phrase is empty or has a mark in it. -/
def Phrase.Plain : Phrase → Prop
  | .assign name rhs => IsWord name ∧ rhs.Plain
  | .word text calls => IsWord text ∧ calls.Plain
  | .new ty args calls => IsWord ty ∧ args.Plain ∧ calls.Plain

def Calls.Plain : Calls → Prop
  | .none => True
  | .call method args more => IsWord method ∧ args.Plain ∧ more.Plain

def Phrases.Plain : Phrases → Prop
  | .nil => True
  | .cons first more => first.Plain ∧ more.Plain

end

theorem Calls.atMark (calls : Calls) {rest : List Char} (h : AtEnd rest) :
    AtMark (calls.text ++ rest) := by
  cases calls with
  | none => exact h.atMark
  | call => simp [text, AtMark, Text.marks]

theorem Calls.ne_blank (calls : Calls) {rest after : List Char} (h : AtEnd rest) :
    calls.text ++ rest ≠ ' ' :: after := by
  cases calls with
  | none =>
      rintro rfl
      simpa using h ' '
  | call => simp [text]

theorem Phrases.atEnd_textAfter (args : Phrases) (rest : List Char) :
    AtEnd (args.textAfter ++ rest) := by
  cases args with
  | nil => simp [textAfter, AtEnd]
  | cons => simp [textAfter, AtEnd]

/-! The three kinds of phrases are told apart by what follows their first word: the sign of an
assignment, another word, or no blank at all. -/

theorem Phrase.assign_ne_word {x w : String} {p : Phrase} {calls : Calls} {r s : List Char}
    (hx : IsWord x) (hw : IsWord w) (hs : AtEnd s) :
    (Phrase.assign x p).text ++ r ≠ (Phrase.word w calls).text ++ s := by
  intro h
  simp only [text, List.append_assoc, List.cons_append] at h
  obtain ⟨-, hrest⟩ := hx.inj hw atMark_blank (calls.atMark hs) h
  exact calls.ne_blank hs hrest.symm

theorem Phrase.assign_ne_new {x ty : String} {p : Phrase} {args : Phrases} {calls : Calls}
    {r s : List Char} (hx : IsWord x) (hty : IsWord ty) :
    (Phrase.assign x p).text ++ r ≠ (Phrase.new ty args calls).text ++ s := by
  intro h
  simp only [text, List.append_assoc, List.cons_append] at h
  obtain ⟨-, hrest⟩ := hx.inj isWord_new atMark_blank atMark_blank h
  exact hty.head_not_mem (List.cons.inj hrest).2.symm (by decide)

theorem Phrase.word_ne_new {w ty : String} {args : Phrases} {calls calls' : Calls}
    {r s : List Char} (hw : IsWord w) (hr : AtEnd r) :
    (Phrase.word w calls).text ++ r ≠ (Phrase.new ty args calls').text ++ s := by
  intro h
  simp only [text, List.append_assoc, List.cons_append] at h
  obtain ⟨-, hrest⟩ := hw.inj isWord_new (calls.atMark hr) atMark_blank h
  exact calls.ne_blank hr hrest

theorem Phrase.text_ne_close {p : Phrase} (h : p.Plain) (r s : List Char) :
    p.text ++ r ≠ ')' :: s := by
  intro heq
  cases p with
  | assign name rhs =>
      rw [text, List.append_assoc] at heq
      exact h.1.head_not_mem heq (by decide)
  | word text calls =>
      rw [Phrase.text, List.append_assoc] at heq
      exact h.1.head_not_mem heq (by decide)
  | new => simp [text] at heq

mutual

/-- A phrase can be read off every text that begins with it, as long as the text goes on as it does
behind an argument. Without this, a call behind the phrase could be one of its own. -/
theorem Phrase.text_inj (p : Phrase) {q : Phrase} {r s : List Char} (hp : p.Plain) (hq : q.Plain)
    (hr : AtEnd r) (hs : AtEnd s) (h : p.text ++ r = q.text ++ s) : p = q ∧ r = s := by
  cases p with
  | assign x p =>
      cases q with
      | assign y q =>
          simp only [Phrase.text, List.append_assoc, List.cons_append] at h
          obtain ⟨rfl, hrest⟩ := hp.1.inj hq.1 atMark_blank atMark_blank h
          obtain ⟨rfl, rfl⟩ := Phrase.text_inj p hp.2 hq.2 hr hs (by simpa using hrest)
          exact ⟨rfl, rfl⟩
      | word w calls => exact absurd h (Phrase.assign_ne_word hp.1 hq.1 hs)
      | new ty args calls => exact absurd h (Phrase.assign_ne_new hp.1 hq.1)
  | word v calls =>
      cases q with
      | assign y q => exact absurd h.symm (Phrase.assign_ne_word hq.1 hp.1 hr)
      | word w calls' =>
          simp only [Phrase.text, List.append_assoc] at h
          obtain ⟨rfl, hrest⟩ := hp.1.inj hq.1 (calls.atMark hr) (calls'.atMark hs) h
          obtain ⟨rfl, rfl⟩ := Calls.text_inj calls hp.2 hq.2 hr hs hrest
          exact ⟨rfl, rfl⟩
      | new ty args calls' => exact absurd h (Phrase.word_ne_new hp.1 hr)
  | new ty args calls =>
      cases q with
      | assign y q => exact absurd h.symm (Phrase.assign_ne_new hq.1 hp.1)
      | word w calls' => exact absurd h.symm (Phrase.word_ne_new hq.1 hs)
      | new ty' args' calls' =>
          simp only [Phrase.text, List.append_assoc, List.cons_append, List.append_cancel_left_eq,
            List.cons.injEq, true_and] at h
          obtain ⟨rfl, hrest⟩ := hp.1.inj hq.1 atMark_open atMark_open h
          rw [List.cons.injEq] at hrest
          obtain ⟨rfl, hcalls⟩ := Phrases.text_inj args hp.2.1 hq.2.1 hrest.2
          obtain ⟨rfl, rfl⟩ := Calls.text_inj calls hp.2.2 hq.2.2 hr hs hcalls
          exact ⟨rfl, rfl⟩
termination_by structural p

theorem Calls.text_inj (calls : Calls) {calls' : Calls} {r s : List Char} (hc : calls.Plain)
    (hc' : calls'.Plain) (hr : AtEnd r) (hs : AtEnd s)
    (h : calls.text ++ r = calls'.text ++ s) : calls = calls' ∧ r = s := by
  cases calls with
  | none =>
      cases calls' with
      | none => exact ⟨rfl, h⟩
      | call =>
          -- What is left would begin with the point of a call.
          simp only [Calls.text, List.nil_append, List.cons_append] at h
          exact absurd (hr '.' (by rw [h]; rfl)) (by decide)
  | call method args more =>
      cases calls' with
      | none =>
          simp only [Calls.text, List.nil_append, List.cons_append] at h
          exact absurd (hs '.' (by rw [← h]; rfl)) (by decide)
      | call method' args' more' =>
          simp only [Calls.text, List.cons_append, List.append_assoc, List.cons.injEq,
            true_and] at h
          obtain ⟨rfl, hrest⟩ := hc.1.inj hc'.1 atMark_open atMark_open h
          rw [List.cons.injEq] at hrest
          obtain ⟨rfl, hmore⟩ := Phrases.text_inj args hc.2.1 hc'.2.1 hrest.2
          obtain ⟨rfl, rfl⟩ := Calls.text_inj more hc.2.2 hc'.2.2 hr hs hmore
          exact ⟨rfl, rfl⟩
termination_by structural calls

theorem Phrases.text_inj (args : Phrases) {args' : Phrases} {r s : List Char} (ha : args.Plain)
    (ha' : args'.Plain) (h : args.text ++ r = args'.text ++ s) : args = args' ∧ r = s := by
  cases args with
  | nil =>
      cases args' with
      | nil => simpa [Phrases.text] using h
      | cons q more' =>
          simp only [Phrases.text, List.append_assoc, List.singleton_append] at h
          exact absurd h.symm (Phrase.text_ne_close ha'.1 _ _)
  | cons p more =>
      cases args' with
      | nil =>
          simp only [Phrases.text, List.append_assoc, List.singleton_append] at h
          exact absurd h (Phrase.text_ne_close ha.1 _ _)
      | cons q more' =>
          simp only [Phrases.text, List.append_assoc] at h
          -- Whether more arguments come or the parenthesis, the first one has ended.
          obtain ⟨rfl, hrest⟩ := Phrase.text_inj p ha.1 ha'.1 (more.atEnd_textAfter r)
            (more'.atEnd_textAfter s) h
          obtain ⟨rfl, rfl⟩ := Phrases.textAfter_inj more ha.2 ha'.2 hrest
          exact ⟨rfl, rfl⟩
termination_by structural args

theorem Phrases.textAfter_inj (args : Phrases) {args' : Phrases} {r s : List Char}
    (ha : args.Plain) (ha' : args'.Plain) (h : args.textAfter ++ r = args'.textAfter ++ s) :
    args = args' ∧ r = s := by
  cases args with
  | nil =>
      cases args' with
      | nil => simpa [Phrases.textAfter] using h
      | cons => simp [Phrases.textAfter] at h
  | cons p more =>
      cases args' with
      | nil => simp [Phrases.textAfter] at h
      | cons q more' =>
          simp only [Phrases.textAfter, List.append_assoc, List.cons_append, List.cons.injEq,
            true_and] at h
          obtain ⟨rfl, hrest⟩ := Phrase.text_inj p ha.1 ha'.1 (more.atEnd_textAfter r)
            (more'.atEnd_textAfter s) h
          obtain ⟨rfl, rfl⟩ := Phrases.textAfter_inj more ha.2 ha'.2 hrest
          exact ⟨rfl, rfl⟩
termination_by structural args

end

/-- **Different phrases have different texts.** -/
theorem Phrase.text_injective {p q : Phrase} (hp : p.Plain) (hq : q.Plain) (h : p.text = q.text) :
    p = q :=
  (p.text_inj hp hq Text.atEnd_nil Text.atEnd_nil (congrArg (· ++ []) h)).1

/-! ### Outlines -/

/-- An expression without the types of its variables and literals. It does not matter which of the
two a word is, and a class is known by its name. -/
inductive Outline where
  | leaf (text : String)
  | assign (name : String) (rhs : Outline)
  | call (receiver : Outline) (method : String) (args : List Outline)
  | new (ty : String) (args : List Outline)

namespace Expr

mutual

/-- What is left of an expression when types are forgotten, or only known by their names. -/
def outline (t : ClassTable) : Expr → Outline
  | .var name _ => .leaf name
  | .lit text _ => .leaf text
  | .null => .leaf "null"
  | .assign name _ rhs => .assign name (outline t rhs)
  | .call receiver method args => .call (outline t receiver) method (outlineAll t args)
  | .new ty args => .new (t.render ty) (outlineAll t args)

def outlineAll (t : ClassTable) : List Expr → List Outline
  | [] => []
  | e :: es => outline t e :: outlineAll t es

end

/-- The expressions are equal once their types are forgotten. -/
def Similar (t : ClassTable) (a b : Expr) : Prop := a.outline t = b.outline t

/-- No text of a variable or literal, no method and no name of an instantiated type in the
expression is empty or has a mark in it. -/
inductive Plain (t : ClassTable) : Expr → Prop where
  | var {name : String} {ty : Ty} : IsWord name → Plain t (.var name ty)
  | lit {text : String} {ty : Ty} : IsWord text → Plain t (.lit text ty)
  | null : Plain t .null
  | assign {name : String} {ty : Ty} {rhs : Expr} :
      IsWord name → Plain t rhs → Plain t (.assign name ty rhs)
  | call {receiver : Expr} {method : String} {args : List Expr} :
      Plain t receiver → IsWord method → (∀ a ∈ args, Plain t a) →
      Plain t (.call receiver method args)
  | new {ty : Ty} {args : List Expr} :
      IsWord (t.render ty) → (∀ a ∈ args, Plain t a) → Plain t (.new ty args)

end Expr

/-! ### The phrase of an outline -/

def Calls.concat (method : String) (args : Phrases) : Calls → Calls
  | .none => .call method args .none
  | .call first firstArgs more => .call first firstArgs (more.concat method args)

/-- One more call, on what the phrase ends with. -/
def Phrase.addCall (method : String) (args : Phrases) : Phrase → Phrase
  | .assign name rhs => .assign name (rhs.addCall method args)
  | .word text calls => .word text (calls.concat method args)
  | .new ty newArgs calls => .new ty newArgs (calls.concat method args)

mutual

def Outline.phrase : Outline → Phrase
  | .leaf text => .word text .none
  | .assign name rhs => .assign name rhs.phrase
  | .call receiver method args => receiver.phrase.addCall method (Outline.phrases args)
  | .new ty args => .new ty (Outline.phrases args) .none

def Outline.phrases : List Outline → Phrases
  | [] => .nil
  | o :: os => .cons o.phrase (Outline.phrases os)

end

theorem Calls.text_concat (calls : Calls) (method : String) (args : Phrases) :
    (calls.concat method args).text =
      calls.text ++ '.' :: (method.toList ++ '(' :: args.text) := by
  cases calls with
  | none => simp [concat, text]
  | call first firstArgs more => simp [concat, text, text_concat more]

theorem Phrase.text_addCall (p : Phrase) (method : String) (args : Phrases) :
    (p.addCall method args).text = p.text ++ '.' :: (method.toList ++ '(' :: args.text) := by
  cases p with
  | assign name rhs => simp [addCall, text, text_addCall rhs]
  | word => simp [addCall, text, Calls.text_concat]
  | new => simp [addCall, text, Calls.text_concat]

namespace Expr

variable {t : ClassTable}

theorem renderArgs_eq (es : List Expr)
    (h : ∀ e ∈ es, (e.render t).toList = (e.outline t).phrase.text) :
    (renderArgs t es).toList ++ [')'] = (Outline.phrases (outlineAll t es)).text := by
  induction es with
  | nil => rfl
  | cons e es ih =>
      rw [List.forall_mem_cons] at h
      cases es with
      | nil => simp [renderArgs, outlineAll, Outline.phrases, Phrases.text, Phrases.textAfter, h.1]
      | cons e' es =>
          have hrest := ih h.2
          simp only [outlineAll, Outline.phrases, Phrases.text] at hrest
          simp only [renderArgs, outlineAll, Outline.phrases, Phrases.text, Phrases.textAfter,
            String.toList_append, List.append_assoc, h.1, hrest]
          rfl

/-- The text of an expression is that of its phrase. -/
theorem toList_render (t : ClassTable) (e : Expr) :
    (e.render t).toList = (e.outline t).phrase.text := by
  induction e using children_induction with
  | node e ih =>
      cases e with
      | var | lit | null => simp [render, outline, Outline.phrase, Phrase.text, Calls.text]
      | assign name ty rhs =>
          simp [render, outline, Outline.phrase, Phrase.text, ih rhs (List.mem_singleton.mpr rfl)]
      | call receiver method args =>
          have hargs := renderArgs_eq args fun a ha => ih a (List.mem_cons_of_mem _ ha)
          simp [render, outline, Outline.phrase, Phrase.text_addCall,
            ih receiver (List.mem_cons_self ..), ← hargs]
      | new ty args =>
          have hargs := renderArgs_eq args ih
          simp [render, outline, Outline.phrase, Phrase.text, Calls.text, ← hargs]

theorem phrases_plain {es : List Expr} (h : ∀ e ∈ es, (e.outline t).phrase.Plain) :
    (Outline.phrases (outlineAll t es)).Plain := by
  induction es with
  | nil => trivial
  | cons e es ih =>
      rw [List.forall_mem_cons] at h
      exact ⟨h.1, ih h.2⟩

end Expr

theorem Calls.Plain.concat {calls : Calls} (h : calls.Plain) {method : String} {args : Phrases}
    (hmethod : IsWord method) (hargs : args.Plain) : (calls.concat method args).Plain := by
  cases calls with
  | none => exact ⟨hmethod, hargs, trivial⟩
  | call first firstArgs more => exact ⟨h.1, h.2.1, Calls.Plain.concat h.2.2 hmethod hargs⟩

theorem Phrase.Plain.addCall {p : Phrase} (h : p.Plain) {method : String} {args : Phrases}
    (hmethod : IsWord method) (hargs : args.Plain) : (p.addCall method args).Plain := by
  cases p with
  | assign name rhs => exact ⟨h.1, Phrase.Plain.addCall h.2 hmethod hargs⟩
  | word => exact ⟨h.1, Calls.Plain.concat h.2 hmethod hargs⟩
  | new => exact ⟨h.1, h.2.1, Calls.Plain.concat h.2.2 hmethod hargs⟩

namespace Expr

variable {t : ClassTable}

theorem Plain.phrase_plain {e : Expr} (h : e.Plain t) : (e.outline t).phrase.Plain := by
  induction h with
  | var hname => exact ⟨hname, trivial⟩
  | lit htext => exact ⟨htext, trivial⟩
  | null => exact ⟨isWord_null, trivial⟩
  | assign hname _ ih => exact ⟨hname, ih⟩
  | call _ hmethod _ ih ihargs => exact ih.addCall hmethod (phrases_plain ihargs)
  | new hty _ ihargs => exact ⟨hty, phrases_plain ihargs, trivial⟩

end Expr

/-! ### The outline of a phrase -/

mutual

def Phrase.outline : Phrase → Outline
  | .assign name rhs => .assign name rhs.outline
  | .word text calls => calls.outline (.leaf text)
  | .new ty args calls => calls.outline (.new ty args.outlines)

/-- The calls, the first of them on the given receiver. -/
def Calls.outline : Calls → Outline → Outline
  | .none, receiver => receiver
  | .call method args more, receiver => more.outline (.call receiver method args.outlines)

def Phrases.outlines : Phrases → List Outline
  | .nil => []
  | .cons first more => first.outline :: more.outlines

end

/-- The call of a method, moved inside the assignments that the receiver begins with. -/
def Outline.callInside (method : String) (args : List Outline) : Outline → Outline
  | .assign name rhs => .assign name (rhs.callInside method args)
  | o => .call o method args

/-- Calls that are not on an assignment are called upon where they stand. -/
theorem Calls.outline_concat (calls : Calls) (method : String) (args : Phrases) {o : Outline}
    (ho : ∀ name rhs, o ≠ .assign name rhs) :
    (calls.concat method args).outline o = (calls.outline o).callInside method args.outlines := by
  cases calls with
  | none =>
      cases o with
      | assign name rhs => exact absurd rfl (ho name rhs)
      | leaf | call | new => simp [concat, outline, Outline.callInside]
  | call first firstArgs more =>
      rw [concat, outline, outline_concat more method args (by simp), outline]

theorem Phrase.outline_addCall (p : Phrase) (method : String) (args : Phrases) :
    (p.addCall method args).outline = p.outline.callInside method args.outlines := by
  cases p with
  | assign name rhs => rw [addCall, outline, outline_addCall rhs, outline, Outline.callInside]
  | word text calls => rw [addCall, outline, Calls.outline_concat _ _ _ (by simp), outline]
  | new ty newArgs calls => rw [addCall, outline, Calls.outline_concat _ _ _ (by simp), outline]

namespace Expr

variable {t : ClassTable}

theorem outline_callInside (method : String) (args : List Expr) (e : Expr) :
    (callInside method args e).outline t =
      (e.outline t).callInside method (outlineAll t args) := by
  induction e using children_induction with
  | node e ih =>
      cases e with
      | assign name ty rhs =>
          simp only [callInside, outline, Outline.callInside, ih rhs (List.mem_singleton.mpr rfl)]
      | var | lit | null | call | new => simp only [callInside, outline, Outline.callInside]

theorem outlines_phrases (es : List Expr)
    (h : ∀ e ∈ es, (e.outline t).phrase.outline = e.norm.outline t) :
    (Outline.phrases (outlineAll t es)).outlines = outlineAll t (normAll es) := by
  induction es with
  | nil => rfl
  | cons e es ih =>
      rw [List.forall_mem_cons] at h
      simp only [outlineAll, Outline.phrases, Phrases.outlines, normAll, h.1, ih h.2]

/-- Read from left to right, the text of an expression has the outline of the regrouped one. -/
theorem outline_phrase (t : ClassTable) (e : Expr) :
    (e.outline t).phrase.outline = e.norm.outline t := by
  induction e using children_induction with
  | node e ih =>
      cases e with
      | var | lit | null => rfl
      | assign name ty rhs =>
          simp only [outline, Outline.phrase, Phrase.outline, norm,
            ih rhs (List.mem_singleton.mpr rfl)]
      | call receiver method args =>
          have hargs := outlines_phrases args fun a ha => ih a (List.mem_cons_of_mem _ ha)
          simp only [outline, Outline.phrase, Phrase.outline_addCall, norm, outline_callInside,
            hargs, ih receiver (List.mem_cons_self ..)]
      | new ty args =>
          have hargs := outlines_phrases args ih
          simp only [outline, Outline.phrase, Phrase.outline, Calls.outline, norm, hargs]

/-! ### Regrouping does not show -/

theorem render_callInside (method : String) (args : List Expr) (e : Expr) :
    (callInside method args e).render t = (Expr.call e method args).render t := by
  induction e using children_induction with
  | node e ih =>
      cases e with
      | assign name ty rhs =>
          simp only [callInside, render, ih rhs (List.mem_singleton.mpr rfl), String.append_assoc]
      | var | lit | null | call | new => rfl

theorem renderArgs_normAll (es : List Expr) (h : ∀ e ∈ es, e.norm.render t = e.render t) :
    renderArgs t (normAll es) = renderArgs t es := by
  induction es with
  | nil => rfl
  | cons e es ih =>
      rw [List.forall_mem_cons] at h
      have hrest := ih h.2
      cases es with
      | nil => simpa only [normAll, renderArgs] using h.1
      | cons e' es => simp only [normAll, renderArgs, h.1] at hrest ⊢; rw [hrest]

theorem render_norm (t : ClassTable) (e : Expr) : e.norm.render t = e.render t := by
  induction e using children_induction with
  | node e ih =>
      cases e with
      | var | lit | null => rfl
      | assign name ty rhs => simp only [norm, render, ih rhs (List.mem_singleton.mpr rfl)]
      | call receiver method args =>
          have hargs := renderArgs_normAll args fun a ha => ih a (List.mem_cons_of_mem _ ha)
          simp only [norm, render_callInside, render, hargs, ih receiver (List.mem_cons_self ..)]
      | new ty args => simp only [norm, render, renderArgs_normAll args ih]

/-! ### The exact ambiguity -/

theorem Similar.render_eq {a b : Expr} (h : Similar t a b) : a.render t = b.render t := by
  rw [← String.toList_inj, toList_render, toList_render, h]

theorem similar_norm_of_render_eq {a b : Expr} (ha : a.Plain t) (hb : b.Plain t)
    (h : a.render t = b.render t) : Similar t a.norm b.norm := by
  rw [← String.toList_inj, toList_render, toList_render] at h
  have hphrase := Phrase.text_injective ha.phrase_plain hb.phrase_plain h
  rw [Similar, ← outline_phrase, ← outline_phrase, hphrase]

theorem render_eq_iff_similar_norm {a b : Expr} (ha : a.Plain t) (hb : b.Plain t) :
    a.render t = b.render t ↔ Similar t a.norm b.norm := by
  refine ⟨similar_norm_of_render_eq ha hb, ?_⟩
  intro h
  rw [← a.render_norm, ← b.render_norm, h.render_eq]

/-- **Exactly which expressions read alike**, as far as the words in them can be told from marks:
those whose regrouped forms are the same but for types, and but for what kind of word a word is. The
regrouped form is the one expression that regrouping ends with. So a text has no more than one
reading among the expressions without a call on an assignment. -/
theorem rendered_alike_iff_regrouped_similar (t : ClassTable) :
    (∀ e : Expr, ReflTransGen Regroups e e.norm ∧ (∀ e', ¬ Regroups e.norm e') ∧
      ∀ e', ReflTransGen Regroups e e' → (∀ e'', ¬ Regroups e' e'') → e' = e.norm) ∧
    (∀ a b : Expr, a.Plain t → b.Plain t →
      (a.render t = b.render t ↔ Similar t a.norm b.norm)) ∧
    ∀ a b : Expr, a.Plain t → b.Plain t → (∀ a', ¬ Regroups a a') → (∀ b', ¬ Regroups b b') →
      (a.render t = b.render t ↔ Similar t a b) := by
  refine ⟨?_, ?_, ?_⟩
  · intro e
    exact ⟨e.regroups_norm, e.not_regroups_norm, fun _ => eq_norm_of_regroups⟩
  · intro a b
    exact render_eq_iff_similar_norm
  · intro a b ha hb haend hbend
    rw [render_eq_iff_similar_norm ha hb, norm_eq_self_of_not_regroups haend,
      norm_eq_self_of_not_regroups hbend]

/-- A call on a chain of two assignments, inside a constructor call. -/
def callOnAssignments : Expr :=
  .new (.ofClass ⟨1⟩) [.call (.assign "x" (.ofClass ⟨0⟩) (.assign "y" (.ofClass ⟨1⟩)
    (.var "s" (.ofClass ⟨1⟩)))) "concat" [.null]]

/-- The chain of assignments of the call, with literals for the variable and for `null`. -/
def assignmentsOfCall : Expr :=
  .new (.ofClass ⟨1⟩) [.assign "x" .void (.assign "y" .null
    (.call (.lit "s" .void) "concat" [.lit "null" .void]))]

/-- Both of them read `new String(x = y = s.concat(null))`. -/
theorem callOnAssignments_reads_as_assignments :
    callOnAssignments.Plain .initial ∧ assignmentsOfCall.Plain .initial ∧
    callOnAssignments ≠ assignmentsOfCall ∧
    callOnAssignments.render .initial = assignmentsOfCall.render .initial := by
  have hx : IsWord "x" := isWord_of_all (by decide) (by decide)
  have hy : IsWord "y" := isWord_of_all (by decide) (by decide)
  have hs : IsWord "s" := isWord_of_all (by decide) (by decide)
  have hconcat : IsWord "concat" := isWord_of_all (by decide) (by decide)
  have hstring : IsWord "String" := isWord_of_all (by decide) (by decide)
  have hcall : callOnAssignments.Plain .initial := by
    refine .new hstring (List.forall_mem_singleton.mpr ?_)
    refine .call ?_ hconcat (List.forall_mem_singleton.mpr .null)
    exact .assign hx (.assign hy (.var hs))
  have hassignments : assignmentsOfCall.Plain .initial := by
    refine .new hstring (List.forall_mem_singleton.mpr ?_)
    refine .assign hx (.assign hy ?_)
    exact .call (.lit hs) hconcat (List.forall_mem_singleton.mpr (.lit isWord_null))
  obtain ⟨-, halike, -⟩ := rendered_alike_iff_regrouped_similar .initial
  exact ⟨hcall, hassignments, by decide, (halike _ _ hcall hassignments).mpr rfl⟩

end Expr

end JavaChecker
