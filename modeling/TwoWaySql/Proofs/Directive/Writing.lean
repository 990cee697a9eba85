import Mathlib.Data.List.Basic
import TwoWaySql.Directive.Arg
import TwoWaySql.Proofs.Directive.Token

/-!
# Writing arguments

An argument is written as one token: a reference with its dot, a word as it stands, a string in
quotes with a backslash before each backslash and quote. Reading resolves such pairs of characters,
but tokens are cut by a simpler rule, which looks at one character before a quote only. The two
agree on every string that does not end with a backslash. One that does is not closed where it
ends, which does no harm at the very end of a directive and swallows what follows anywhere else.

## Main definitions

* `Arg.escape`, `Arg.written`, `Arg.directiveBody` — how arguments are written.
* `Arg.Writable` — the arguments that have a token.
* `Arg.endsOpen` — the strings whose closing quote is taken for an escaped one.
-/
namespace TwoWaySql

namespace Arg

/-! ## Written arguments -/

/-- A text as it is written between quotes: a backslash before each backslash and quote. -/
def escape : Text → Text
  | [] => []
  | c :: rest => if c = '\\' ∨ c = '"' then '\\' :: c :: escape rest else c :: escape rest

/-- The token of an argument. -/
def written : Arg → Text
  | field name => '.' :: name
  | quoted text => '"' :: (escape text ++ ['"'])
  | bare text => text

/-- The arguments behind a keyword, a space before each. -/
def writtenAll (args : List Arg) : Text := args.flatMap fun arg => ' ' :: arg.written

/-- The body of a directive: its keyword and its arguments. -/
def directiveBody (keyword : Text) (args : List Arg) : Text := keyword ++ writtenAll args

/-- Whether a text is there and has neither blanks nor quotes. -/
def IsPlain (t : Text) : Prop := t ≠ [] ∧ ∀ c ∈ t, isBlank c = false ∧ c ≠ '"'

instance (t : Text) : Decidable (IsPlain t) :=
  decidable_of_iff (t ≠ [] ∧ t.all (fun c => !isBlank c && c != '"') = true) (by simp [IsPlain])

/-- Whether an argument has a token: names and words are plain, and a word does not start with
the dot of a reference. -/
def Writable : Arg → Prop
  | field name => IsPlain name
  | quoted _ => True
  | bare text => IsPlain text ∧ text.head? ≠ some '.'

instance : (arg : Arg) → Decidable arg.Writable
  | field name => inferInstanceAs (Decidable (IsPlain name))
  | quoted _ => isTrue trivial
  | bare text => inferInstanceAs (Decidable (IsPlain text ∧ text.head? ≠ some '.'))

/-- Whether an argument is a string that ends with a backslash. -/
def endsOpen : Arg → Bool
  | quoted text => text.getLast? = some '\\'
  | _ => false

@[simp] theorem writtenAll_nil : writtenAll [] = [] := rfl

@[simp] theorem writtenAll_cons (arg : Arg) (args : List Arg) :
    writtenAll (arg :: args) = ' ' :: (arg.written ++ writtenAll args) := rfl

@[simp] theorem writtenAll_append (args args' : List Arg) :
    writtenAll (args ++ args') = writtenAll args ++ writtenAll args' := by simp [writtenAll]

/-! ## Resolving what was escaped -/

theorem unescape_cons {c : Char} (h : c ≠ '\\') (rest : Text) :
    unescape (c :: rest) = c :: unescape rest := by
  rw [unescape]
  · simp [h]
  · simp [h]

theorem unescape_escape_append (t rest : Text) :
    unescape (escape t ++ rest) = t ++ unescape rest := by
  induction t with
  | nil => rfl
  | cons c t ih =>
      by_cases hc : c = '\\' ∨ c = '"'
      · have hn : c ≠ 'n' ∧ c ≠ 't' := by rcases hc with rfl | rfl <;> decide
        simp [escape, hc, unescape, hn, ih]
      · obtain ⟨hbackslash, hquote⟩ := not_or.1 hc
        simp [escape, hbackslash, hquote, unescape_cons hbackslash, ih]

theorem IsPlain.exists_cons {t : Text} (h : IsPlain t) :
    ∃ c rest, t = c :: rest ∧ isBlank c = false ∧ c ≠ '"' := by
  obtain ⟨c, rest, rfl⟩ := List.exists_cons_of_ne_nil h.1
  exact ⟨c, rest, rfl, h.2 c List.mem_cons_self⟩

/-- The token of an argument is read as the argument. -/
theorem ofToken_written {arg : Arg} (h : arg.Writable) : ofToken arg.written = arg := by
  cases arg with
  | field name =>
      obtain ⟨c, rest, rfl, -⟩ := IsPlain.exists_cons h
      rfl
  | quoted text =>
      have hlast : (escape text ++ ['"']).getLast? = some '"' := by simp
      have htext := unescape_escape_append text []
      simp only [written, ofToken, hlast, if_true, List.dropLast_concat]
      rw [List.append_nil, unescape, List.append_nil] at htext
      rw [htext]
  | bare text =>
      obtain ⟨c, rest, rfl, -, hquote⟩ := h.1.exists_cons
      have hdot : c ≠ '.' := fun hc => h.2 (by simp [hc])
      simp [written, ofToken, hdot, hquote]

/-- A token starts and ends with a character that is not blank. -/
theorem trim_written {arg : Arg} (h : arg.Writable) : arg.written.trim = arg.written := by
  cases arg with
  | field name =>
      refine Text.trim_eq_self_of_forall fun c hc => ?_
      rcases List.mem_cons.1 hc with rfl | hc
      · decide
      · exact (h.2 c hc).1
  | quoted text =>
      have hquote : isBlank '"' = false := by decide
      refine Text.trim_eq_self ?_ ?_
      · simp [written, hquote]
      · intro c hc
        rw [written, ← List.cons_append, List.getLast?_concat] at hc
        cases hc
        exact hquote
  | bare text => exact Text.trim_eq_self_of_forall fun c hc => (h.1.2 c hc).1

theorem exists_written_eq_cons {arg : Arg} (h : arg.Writable) :
    ∃ c rest, arg.written = c :: rest ∧ isBlank c = false := by
  cases arg with
  | field name => exact ⟨'.', name, rfl, by decide⟩
  | quoted text => exact ⟨'"', _, rfl, by decide⟩
  | bare text =>
      obtain ⟨c, rest, rfl, hc, -⟩ := h.1.exists_cons
      exact ⟨c, rest, rfl, hc⟩

end Arg

/-! ## Cutting tokens -/

namespace Token

open Arg (escape IsPlain Writable written writtenAll endsOpen quoted)

/-- Whether the text in front of a place ends with a backslash, given whether the text before it
does. -/
def behindBackslash (escaped : Bool) (t : Text) : Bool :=
  (t.getLast?.map fun c => decide (c = '\\')).getD escaped

/-- A character that is not blank goes to the first run. -/
theorem exists_runs_cons {c : Char} (h : isBlank c = false) (quoted escaped : Bool) (rest : Text) :
    ∃ first more, runs quoted escaped (c :: rest) = (c :: first) :: more := by
  have hextend (ts : List Text) : ∃ first more, Text.extend c ts = (c :: first) :: more := by
    cases ts with
    | nil => exact ⟨[], [], rfl⟩
    | cons t ts => exact ⟨t, ts, rfl⟩
  simp only [runs, h]
  split
  · exact hextend _
  · exact hextend _

/-- A plain text is a run up to the next blank or the end. -/
theorem runs_plain_append {t rest : Text} {more : List Text} (ht : IsPlain t)
    (hrest : ∀ escaped, runs false escaped rest = [] :: more) (escaped : Bool) :
    runs false escaped (t ++ rest) = t :: more := by
  have hchars := ht.2
  clear ht
  induction t generalizing escaped with
  | nil => exact hrest escaped
  | cons c t ih =>
      obtain ⟨hblank, hquote⟩ := hchars c List.mem_cons_self
      have hnext := ih (decide (c = '\\')) fun d hd => hchars d (List.mem_cons_of_mem c hd)
      simp [runs, hblank, hquote, hnext, Text.extend]

/-- Inside quotes an escaped text closes nothing. -/
theorem runs_escape_append (t rest : Text) (escaped : Bool) :
    runs true escaped (escape t ++ rest) =
      (escape t).foldr Text.extend (runs true (behindBackslash escaped t) rest) := by
  induction t generalizing escaped with
  | nil => rfl
  | cons c t ih =>
      have hbehind : behindBackslash escaped (c :: t) = behindBackslash (decide (c = '\\')) t := by
        rw [behindBackslash, behindBackslash, List.getLast?_cons]
        cases t.getLast? <;> rfl
      rw [hbehind]
      by_cases hc : c = '\\' ∨ c = '"'
      · simp [escape, hc, runs, ih]
      · obtain ⟨hbackslash, hquote⟩ := not_or.1 hc
        simp [escape, hbackslash, runs, hquote, ih]

theorem foldr_extend_cons (t u : Text) (more : List Text) :
    t.foldr Text.extend (u :: more) = (t ++ u) :: more := by
  induction t with
  | nil => rfl
  | cons c t ih => simp [ih, Text.extend]

/-- A string in quotes goes on as the text behind its closing quote does, inside the quotes if it
ends with a backslash. -/
theorem runs_quoted_append {text rest first : Text} {more : List Text}
    (h : runs (quoted text).endsOpen false rest = first :: more) :
    runs false false ((quoted text).written ++ rest) =
      ((quoted text).written ++ first) :: more := by
  have hbehind : behindBackslash false text = (quoted text).endsOpen := by
    rw [behindBackslash, endsOpen]
    cases text.getLast? <;> simp
  have hclose : runs true (behindBackslash false text) ('"' :: rest) =
      ('"' :: first) :: more := by
    rw [hbehind]
    cases hopen : (quoted text).endsOpen <;> simp_all [runs, isBlank, Text.extend]
  have hinside := runs_escape_append text ('"' :: rest) false
  rw [hclose, foldr_extend_cons] at hinside
  have hopen : runs false false ('"' :: (escape text ++ '"' :: rest)) =
      Text.extend '"' (runs true false (escape text ++ '"' :: rest)) := by simp [runs]
  rw [written, List.cons_append, List.append_assoc, List.singleton_append, hopen, hinside]
  simp [Text.extend]

/-- An argument is a run up to the next blank, unless it ends open, and up to the end anyway. -/
theorem runs_written_append {arg : Arg} {rest : Text} {more : List Text} (ha : arg.Writable)
    (hopen : arg.endsOpen = false ∨ rest = [])
    (hrest : ∀ escaped, runs false escaped rest = [] :: more) :
    runs false false (arg.written ++ rest) = arg.written :: more := by
  cases arg with
  | field name =>
      have hdot : isBlank '.' = false := by decide
      have hname := runs_plain_append ha hrest false
      simp [written, runs, hdot, hname, Text.extend]
  | quoted text =>
      have hquoted : runs (quoted text).endsOpen false rest = [] :: more := by
        rcases hopen with hclosed | rfl
        · rw [hclosed, hrest]
        · have hnil := hrest false
          simp only [runs] at hnil ⊢
          exact hnil
      simpa using runs_quoted_append hquoted
  | bare text => exact runs_plain_append ha.1 hrest false

/-- Arguments that do not end open are runs of their own, whatever follows. -/
theorem runs_writtenAll_append {args : List Arg} {rest : Text} {more : List Text}
    (ha : ∀ arg ∈ args, arg.Writable) (hclosed : ∀ arg ∈ args, arg.endsOpen = false)
    (hrest : ∀ escaped, runs false escaped rest = [] :: more) (escaped : Bool) :
    runs false escaped (writtenAll args ++ rest) = [] :: (args.map written ++ more) := by
  induction args generalizing escaped with
  | nil => exact hrest escaped
  | cons arg args ih =>
      have hnext := ih (fun a h => ha a (List.mem_cons_of_mem arg h))
        fun a h => hclosed a (List.mem_cons_of_mem arg h)
      have harg := runs_written_append (ha arg List.mem_cons_self)
        (.inl (hclosed arg List.mem_cons_self)) hnext
      rw [Arg.writtenAll_cons, List.cons_append, List.append_assoc, runs_blank, harg]
      rfl

/-- Arguments of which none but the last ends open are the runs. -/
theorem runs_writtenAll_of_closed {args : List Arg} (ha : ∀ arg ∈ args, arg.Writable)
    (hclosed : ∀ arg ∈ args.dropLast, arg.endsOpen = false) (escaped : Bool) :
    runs false escaped (writtenAll args) = [] :: args.map written := by
  rcases List.eq_nil_or_concat' args with rfl | ⟨init, last, rfl⟩
  · rfl
  · rw [List.dropLast_concat] at hclosed
    have hlast := runs_written_append (ha last (by simp)) (.inr rfl) fun _ => rfl
    have hend (escaped : Bool) : runs false escaped (writtenAll [last]) = [[], last.written] := by
      rw [Arg.writtenAll_cons, Arg.writtenAll_nil, runs_blank, hlast]
    rw [Arg.writtenAll_append, List.map_append]
    exact runs_writtenAll_append (fun arg h => ha arg (by simp [h])) hclosed hend escaped

/-- The run of a string that ends open takes in the blank behind it and the start of the next
argument. -/
theorem exists_runs_writtenAll_of_open {init more : List Arg} {text : Text} {next : Arg}
    (ha : ∀ arg ∈ init ++ quoted text :: next :: more, arg.Writable)
    (hclosed : ∀ arg ∈ init, arg.endsOpen = false) (hopen : (quoted text).endsOpen = true) :
    ∃ c first others, isBlank c = false ∧
      ∀ escaped, runs false escaped (writtenAll (init ++ quoted text :: next :: more)) =
        [] :: (init.map written ++ ((quoted text).written ++ ' ' :: c :: first) :: others) := by
  obtain ⟨c, rest, hnext, hc⟩ := Arg.exists_written_eq_cons (ha next (by simp))
  obtain ⟨first, others, hfirst⟩ := exists_runs_cons hc true false (rest ++ writtenAll more)
  have hspace (u : Text) : runs true false (' ' :: u) = Text.extend ' ' (runs true false u) := by
    simp [runs]
  have hafter : runs (quoted text).endsOpen false (writtenAll (next :: more)) =
      (' ' :: c :: first) :: others := by
    rw [hopen, Arg.writtenAll_cons, hnext, List.cons_append, hspace, hfirst]
    rfl
  have hquoted := runs_quoted_append hafter
  have hend (escaped : Bool) : runs false escaped (writtenAll (quoted text :: next :: more)) =
      [] :: ((quoted text).written ++ ' ' :: c :: first) :: others := by
    rw [Arg.writtenAll_cons, runs_blank, hquoted]
  refine ⟨c, first, others, hc, ?_⟩
  rw [Arg.writtenAll_append]
  exact runs_writtenAll_append (fun arg h => ha arg (by simp [h])) hclosed hend

end Token

namespace Arg

/-! ## Reading back -/

/-- The arguments that are read in the runs of a body. -/
def ofRuns (runs : List Text) : List Arg :=
  ((runs.map Text.trim).filter fun token => !token.isEmpty).map ofToken

/-- The arguments that are read in the body of a directive. -/
def ofBody (body : Text) : List Arg := (Token.all body).tail.map ofToken

theorem ofRuns_append (runs runs' : List Text) :
    ofRuns (runs ++ runs') = ofRuns runs ++ ofRuns runs' := by simp [ofRuns]

theorem ofRuns_cons {t : Text} (h : t.trim ≠ []) (more : List Text) :
    ofRuns (t :: more) = ofToken t.trim :: ofRuns more := by simp [ofRuns, h]

theorem ofRuns_map_written {args : List Arg} (h : ∀ arg ∈ args, arg.Writable) :
    ofRuns (args.map written) = args := by
  induction args with
  | nil => rfl
  | cons arg args ih =>
      have harg := h arg List.mem_cons_self
      have htrim := trim_written harg
      obtain ⟨c, rest, hcons, -⟩ := exists_written_eq_cons harg
      have hne : arg.written.trim ≠ [] := by
        rw [htrim, hcons]
        exact List.cons_ne_nil c rest
      rw [List.map_cons, ofRuns_cons hne, htrim, ofToken_written harg,
        ih fun a ha => h a (List.mem_cons_of_mem arg ha)]

/-- The keyword is a run of its own, and the other runs are those of the arguments. -/
theorem ofBody_directiveBody {keyword : Text} {args : List Arg} {more : List Text}
    (hkeyword : IsPlain keyword)
    (h : ∀ escaped, Token.runs false escaped (writtenAll args) = [] :: more) :
    ofBody (directiveBody keyword args) = ofRuns more := by
  have hruns := Token.runs_plain_append hkeyword h false
  have htrim := Text.trim_eq_self_of_forall fun c hc => (hkeyword.2 c hc).1
  simp [ofBody, ofRuns, Token.all, directiveBody, hruns, htrim, hkeyword.1]

/-- Arguments of which none but the last ends open are read back. -/
theorem ofBody_of_closed {keyword : Text} {args : List Arg} (hkeyword : IsPlain keyword)
    (ha : ∀ arg ∈ args, arg.Writable) (hclosed : ∀ arg ∈ args.dropLast, arg.endsOpen = false) :
    ofBody (directiveBody keyword args) = args := by
  have hruns := Token.runs_writtenAll_of_closed ha hclosed
  rw [ofBody_directiveBody hkeyword hruns, ofRuns_map_written ha]

/-- A token that goes on behind the quote of a string is not read as the string. -/
theorem ofToken_ne_quoted (text rest : Text) (c : Char) :
    ofToken ((quoted text).written ++ c :: rest) ≠ quoted text := by
  intro h
  have hdrop : (escape text ++ '"' :: c :: rest).dropLast =
      escape text ++ '"' :: (c :: rest).dropLast := by
    rw [List.dropLast_append_of_ne_nil (by simp), List.dropLast_cons_of_ne_nil (by simp)]
  have htoken : (quoted text).written ++ c :: rest = '"' :: (escape text ++ '"' :: c :: rest) := by
    simp [written]
  rw [htoken, ofToken] at h
  split at h
  · rw [hdrop, unescape_escape_append, unescape_cons (by decide)] at h
    simp at h
  · cases h

/-- Trimming leaves a string in quotes and what goes on behind a blank. -/
theorem exists_trim_written_append (text first : Text) {c : Char} (hc : isBlank c = false) :
    ∃ rest, Text.trim ((quoted text).written ++ ' ' :: c :: first) =
      (quoted text).written ++ ' ' :: c :: rest := by
  have htrim : ∃ rest, Text.trim ('"' :: (escape text ++ ['"', ' '] ++ c :: first)) =
      '"' :: (escape text ++ ['"', ' '] ++ c :: rest) :=
    Text.exists_trim_eq_append (by decide) hc
  simpa [written] using htrim

/-- Arguments of which one before the last ends open are not read back: its token goes on with
the next argument. -/
theorem ofBody_of_open {keyword text : Text} {init more : List Arg} {next : Arg}
    (hkeyword : IsPlain keyword) (ha : ∀ arg ∈ init ++ quoted text :: next :: more, arg.Writable)
    (hclosed : ∀ arg ∈ init, arg.endsOpen = false) (hopen : (quoted text).endsOpen = true) :
    ofBody (directiveBody keyword (init ++ quoted text :: next :: more)) ≠
      init ++ quoted text :: next :: more := by
  obtain ⟨c, first, others, hc, hruns⟩ := Token.exists_runs_writtenAll_of_open ha hclosed hopen
  obtain ⟨rest, htoken⟩ := exists_trim_written_append text first hc
  rw [ofBody_directiveBody hkeyword hruns, ofRuns_append,
    ofRuns_map_written fun arg h => ha arg (by simp [h]), ofRuns_cons (by simp [htoken]), htoken]
  intro h
  have hread := List.append_cancel_left h
  exact ofToken_ne_quoted text (c :: rest) ' ' (List.cons.inj hread).1

/-- The first argument that ends open, if there is one before the last. -/
theorem exists_open_of_dropLast {args : List Arg}
    (h : ¬ ∀ arg ∈ args.dropLast, arg.endsOpen = false) :
    ∃ init text next more, args = init ++ quoted text :: next :: more ∧
      (∀ arg ∈ init, arg.endsOpen = false) ∧ (quoted text).endsOpen = true := by
  rcases List.eq_nil_or_concat' args with rfl | ⟨front, last, rfl⟩
  · simp at h
  · rw [List.dropLast_concat] at h
    cases hfind : front.find? endsOpen with
    | none => exact absurd (by simpa using List.find?_eq_none.1 hfind) h
    | some arg =>
        obtain ⟨hopen, init, others, rfl, hclosed⟩ := List.find?_eq_some_iff_append.1 hfind
        obtain ⟨next, more, hmore⟩ := List.exists_cons_of_ne_nil
          (List.append_ne_nil_of_right_ne_nil others (List.cons_ne_nil last []))
        cases arg with
        | quoted text =>
            refine ⟨init, text, next, more, ?_, fun arg ha => by simpa using hclosed arg ha, hopen⟩
            rw [← hmore, List.append_assoc, List.cons_append]
        | field name => cases hopen
        | bare text => cases hopen

/-- **Arguments are read back as they were written**, whatever the quoted strings hold, exactly if
none of them but the last is a string that ends with a backslash. -/
theorem ofBody_directiveBody_iff {keyword : Text} {args : List Arg} (hkeyword : IsPlain keyword)
    (ha : ∀ arg ∈ args, arg.Writable) : ofBody (directiveBody keyword args) = args ↔
      ∀ arg ∈ args.dropLast, arg.endsOpen = false := by
  constructor
  · intro hread
    by_contra hopen
    obtain ⟨init, text, next, more, rfl, hclosed, hends⟩ := exists_open_of_dropLast hopen
    exact ofBody_of_open hkeyword ha hclosed hends hread
  · exact ofBody_of_closed hkeyword ha

theorem ofBody_directiveBody_multi :
    ofBody (directiveBody ['m', 'u', 'l', 't', 'i']
      [.quoted ['a', '\\', ' ', '"', '?'], .field ['X', 's'], .bare ['1'], .quoted ['\\']]) =
        [.quoted ['a', '\\', ' ', '"', '?'], .field ['X', 's'], .bare ['1'], .quoted ['\\']] := by
  have hkeyword : IsPlain ['m', 'u', 'l', 't', 'i'] := by decide
  have hwritable : ∀ arg ∈ [Arg.quoted ['a', '\\', ' ', '"', '?'], .field ['X', 's'], .bare ['1'],
      .quoted ['\\']], arg.Writable := by decide
  exact (ofBody_directiveBody_iff hkeyword hwritable).2 (by decide)

/-- A separator that is a backslash takes the list behind it into its token. -/
theorem ofBody_backslash_separator :
    directiveBody "multi" [.quoted "?", .quoted "\\", .field "Names"] =
        "multi \"?\" \"\\\\\" .Names".toList ∧
      ofBody (directiveBody "multi" [.quoted "?", .quoted "\\", .field "Names"]) =
        [.quoted "?", .bare "\"\\\\\" .Names"] ∧
      ofBody (directiveBody "multi" [.quoted "?", .quoted "\\", .field "Names"]) ≠
        [.quoted "?", .quoted "\\", .field "Names"] := by
  refine ⟨?_, ?_, ?_⟩ <;> decide

end Arg

end TwoWaySql
