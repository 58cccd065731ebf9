import Treewalk.Proofs.Document.Lexeme

/-!
# Documents are read as they are written

The text of a document, in either layout, is read as that document with the members of all objects
sorted by name (`ofText_print`), as long as its numbers are integers of at most 64 bits. Reading is
by a machine with a stack of open containers, so the statement that is proved by induction on
documents says what the machine does with the text of a document before any further text, with any
containers open (`Reads`). It is proved for every reader that makes something of written strings and
numbers (`Reader.Interprets`), and holds of both passes over a text.
-/

namespace Treewalk

open Lexeme
open Text (documentChar appendQuoted)

namespace Document

/-- The document with the members of its objects sorted by name, at every level. -/
def sorted : Document → Document
  | null => null
  | bool b => bool b
  | number n => number n
  | text s => text s
  | array items => array (sortedItems items)
  | object members => object (Reader.sortMembers (sortedMembers members))
where
  sortedItems : List Document → List Document
    | [] => []
    | d :: rest => d.sorted :: sortedItems rest
  sortedMembers : List (String × Document) → List (String × Document)
    | [] => []
    | (name, d) :: rest => (name, d.sorted) :: sortedMembers rest

theorem sorted_array (items : List Document) :
    (array items).sorted = array (items.map sorted) := by
  rw [sorted]
  congr 1
  induction items with
  | nil => rfl
  | cons d rest ih => rw [sorted.sortedItems, ih, List.map_cons]

theorem sorted_object (members : List (String × Document)) :
    (object members).sorted =
      object (Reader.sortMembers (members.map fun m => (m.1, m.2.sorted))) := by
  rw [sorted]
  congr 2
  induction members with
  | nil => rfl
  | cons m rest ih => rw [sorted.sortedMembers, ih, List.map_cons]

/-- All numbers in the document are integers of at most 64 bits. -/
inductive Exact : Document → Prop
  | null : Exact null
  | bool (b : Bool) : Exact (bool b)
  | number {n : Int} (hn : InBounds n) : Exact (number (.int n))
  | text (s : String) : Exact (text s)
  | array {items : List Document} (h : ∀ d ∈ items, Exact d) : Exact (array items)
  | object {members : List (String × Document)} (h : ∀ m ∈ members, Exact m.2) :
      Exact (object members)

end Document

/-! ## Texts -/

theorem Text.toList_foldl_push (cs : List Char) (t : String) :
    (cs.foldl String.push t).toList = t.toList ++ cs := by
  induction cs generalizing t with
  | nil => simp
  | cons c cs ih => rw [List.foldl_cons, ih, String.toList_push, List.append_assoc]; rfl

theorem Text.toList_appendQuoted (write : Char → List Char) (front s : String) :
    (appendQuoted write front s).toList =
      front.toList ++ '"' :: (s.toList.flatMap write ++ ['"']) := by
  have h : ∀ (cs : List Char) (t : String),
      (cs.foldl (fun t c => (write c).foldl String.push t) t).toList =
        t.toList ++ cs.flatMap write := by
    intro cs
    induction cs with
    | nil => simp
    | cons c cs ih =>
      intro t
      rw [List.foldl_cons, ih, toList_foldl_push, List.flatMap_cons, List.append_assoc]
  rw [appendQuoted, String.toList_push, h, String.toList_push]
  simp

theorem Lexeme.skipBlanks_append {blanks : List Char} (h : ∀ c ∈ blanks, isBlank c = true)
    (text : List Char) : skipBlanks (blanks ++ text) = skipBlanks text := by
  rw [skipBlanks, List.dropWhile_append_of_pos h, skipBlanks]

theorem Lexeme.skipBlanks_cons {c : Char} (h : isBlank c = false) (text : List Char) :
    skipBlanks (c :: text) = c :: text := by
  rw [skipBlanks, List.dropWhile_cons, h]
  rfl

theorem Lexeme.isBlank_of_isDigit {c : Char} (h : isDigit c = true) : isBlank c = false := by
  cases hb : isBlank c with
  | false => rfl
  | true =>
    simp only [isBlank, Bool.or_eq_true, decide_eq_true_eq] at hb
    rcases hb with ((rfl | rfl) | rfl) | rfl <;> revert h <;> decide

theorem Lexeme.endsNumeral_nil : EndsNumeral [] := by
  intro c rest h
  cases h

theorem Lexeme.endsNumeral_cons {c : Char}
    (hc : isDigit c = false ∧ c ≠ '.' ∧ c ≠ 'e' ∧ c ≠ 'E') (rest : List Char) :
    EndsNumeral (c :: rest) := by
  intro c' rest' h
  obtain ⟨rfl, -⟩ := List.cons.inj h
  exact hc

theorem Lexeme.exists_cons_repr (n : Int) :
    ∃ c cs, n.repr.toList = c :: cs ∧ (c = '-' ∨ isDigit c = true) := by
  rw [Int.repr_eq_if]
  by_cases hn : 0 ≤ n
  · rw [if_pos hn, Nat.toList_repr]
    cases h : Nat.toDigits 10 n.toNat with
    | nil => exact absurd h Nat.toDigits_ne_nil
    | cons c cs =>
      exact ⟨c, cs, rfl, .inr (isDigit_of_mem_toDigits (n := n.toNat) (h ▸ List.mem_cons_self))⟩
  · rw [if_neg hn, String.toList_append]
    exact ⟨'-', _, rfl, .inl rfl⟩

theorem Document.Layout.isBlank_lineBreak (layout : Layout) (level : Nat) :
    ∀ c ∈ (layout.lineBreak level).toList, isBlank c = true := by
  intro c hc
  cases layout with
  | compact => simp [lineBreak] at hc
  | indented =>
    simp only [lineBreak, String.toList_ofList, List.mem_cons, List.mem_replicate] at hc
    rcases hc with rfl | ⟨-, rfl⟩ <;> decide

namespace Reader

variable {τ α : Type} {r : Reader τ α} {name : String → τ} {make : Document → α}

/-- The reader makes `name s` of a written string and `make d` of a written document. -/
structure Interprets (r : Reader τ α) (name : String → τ) (make : Document → α) : Prop where
  string (s : String) (rest : List Char) :
    r.string (s.toList.flatMap documentChar ++ '"' :: rest) = .ok (name s, rest)
  number {n : Int} (hn : InBounds n) {rest : List Char} (hrest : EndsNumeral rest) :
    r.number (n.repr.toList ++ rest) = .ok (make (.number (.int n)), rest)
  null : r.null = make .null
  bool (b : Bool) : r.bool b = make (.bool b)
  text (s : String) : r.text (name s) = make (.text s)
  array (items : List Document) : r.array (items.map make) = make (.array items)
  object (members : List (String × Document)) :
    r.object (members.map fun m => (name m.1, make m.2)) = make (.object members)

theorem interprets_outline : outline.Interprets (fun _ => ()) fun _ => () where
  string s rest := by simp [outline, skipString_quoted, Except.map]
  number hn rest hrest := by simp [outline, numeral_repr _ hrest, Except.map]
  null := rfl
  bool _ := rfl
  text _ := rfl
  array _ := rfl
  object _ := rfl

theorem interprets_full : full.Interprets id Document.sorted where
  string s rest := by simp [full, readString_quoted]
  number hn rest hrest := by simp [full, number_repr hn hrest, Except.map, Document.sorted]
  null := rfl
  bool _ := rfl
  text _ := rfl
  array items := (Document.sorted_array items).symm
  object members := (Document.sorted_object members).symm

/-! ## Steps of the machine -/

section Steps

variable {open_ outer : List (Frame τ α)} {input blanks rest : List Char}
  {next : Mode τ α × List (Frame τ α) × List Char}

/-- What is done after a step of the machine. -/
def proceed (r : Reader τ α) (step : Except Fault (Mode τ α × List (Frame τ α) × List Char)) :
    Except Fault (α × List Char) :=
  step.bind fun next => r.run next.1 next.2.1 next.2.2

theorem run_value_eq : r.run .value open_ input = r.proceed (r.value open_ input) := by
  rw [run]
  split
  · next heq => rw [heq]; rfl
  · next heq => rw [heq]; rfl

theorem run_name_eq {members : List (τ × α)} :
    r.run (.name members) open_ input = r.proceed (r.member members open_ input) := by
  rw [run]
  split
  · next heq => rw [heq]; rfl
  · next heq => rw [heq]; rfl

theorem run_complete_eq {v : α} {frame : Frame τ α} :
    r.run (.complete v) (frame :: outer) input = r.proceed (r.close v frame outer input) := by
  rw [run]
  split
  · next heq => rw [heq]; rfl
  · next heq => rw [heq]; rfl

theorem run_value (h : r.value open_ input = .ok next) :
    r.run .value open_ input = r.run next.1 next.2.1 next.2.2 := by
  rw [run_value_eq, h]
  rfl

theorem run_name {members : List (τ × α)} (h : r.member members open_ input = .ok next) :
    r.run (.name members) open_ input = r.run next.1 next.2.1 next.2.2 := by
  rw [run_name_eq, h]
  rfl

theorem run_complete {v : α} {frame : Frame τ α} (h : r.close v frame outer input = .ok next) :
    r.run (.complete v) (frame :: outer) input = r.run next.1 next.2.1 next.2.2 := by
  rw [run_complete_eq, h]
  rfl

/-- Blanks before a value do not matter. -/
theorem run_value_blanks (hb : ∀ c ∈ blanks, isBlank c = true) :
    r.run .value open_ (blanks ++ input) = r.run .value open_ input := by
  rw [run_value_eq, run_value_eq]
  unfold value
  rw [skipBlanks_append hb]

/-- Blanks before a name do not matter. -/
theorem run_name_blanks {members : List (τ × α)} (hb : ∀ c ∈ blanks, isBlank c = true) :
    r.run (.name members) open_ (blanks ++ input) = r.run (.name members) open_ input := by
  rw [run_name_eq, run_name_eq]
  unfold member
  rw [skipBlanks_append hb]

/-- Blanks after a value do not matter if a container is open. -/
theorem run_complete_blanks {v : α} {frame : Frame τ α} (hb : ∀ c ∈ blanks, isBlank c = true) :
    r.run (.complete v) (frame :: outer) (blanks ++ input) =
      r.run (.complete v) (frame :: outer) input := by
  rw [run_complete_eq, run_complete_eq]
  unfold close
  rw [skipBlanks_append hb]

theorem value_number {c : Char} (hc : c = '-' ∨ isDigit c = true) :
    r.value open_ (c :: input) =
      (r.number (c :: input)).map fun p => (.complete p.1, open_, p.2) := by
  have hne : isBlank c = false ∧ c ≠ 'n' ∧ c ≠ 't' ∧ c ≠ 'f' := by
    rcases hc with rfl | hc
    · decide
    · refine ⟨isBlank_of_isDigit hc, ?_, ?_, ?_⟩
      all_goals rintro rfl; revert hc; decide
  unfold value
  rw [skipBlanks_cons hne.1]
  simp [hne, hc]

theorem value_string : r.value open_ ('"' :: input) =
    (r.string input).map fun p => (.complete (r.text p.1), open_, p.2) := by
  unfold value
  rw [skipBlanks_cons (by decide)]
  rfl

theorem close_array_comma {v : α} {items : List α} :
    r.close v (.array items) outer (',' :: rest) =
      .ok (.value, .array (v :: items) :: outer, rest) := by
  unfold close
  rw [skipBlanks_cons (by decide)]
  simp

theorem close_array_end {v : α} {items : List α} :
    r.close v (.array items) outer (']' :: rest) =
      .ok (.complete (r.array (v :: items).reverse), outer, rest) := by
  unfold close
  rw [skipBlanks_cons (by decide)]
  simp

theorem close_object_comma {v : α} {members : List (τ × α)} {t : τ} :
    r.close v (.object members t) outer (',' :: rest) =
      .ok (.name ((t, v) :: members), outer, rest) := by
  unfold close
  rw [skipBlanks_cons (by decide)]
  simp

theorem close_object_end {v : α} {members : List (τ × α)} {t : τ} :
    r.close v (.object members t) outer ('}' :: rest) =
      .ok (.complete (r.object ((t, v) :: members).reverse), outer, rest) := by
  unfold close
  rw [skipBlanks_cons (by decide)]
  simp

theorem member_name {members : List (τ × α)} {t : τ} {blanks' : List Char}
    (hb : ∀ c ∈ blanks, isBlank c = true) (hb' : ∀ c ∈ blanks', isBlank c = true)
    (h : r.string input = .ok (t, blanks' ++ ':' :: rest)) :
    r.member members open_ (blanks ++ '"' :: input) =
      .ok (.value, .object members t :: open_, rest) := by
  unfold member
  rw [skipBlanks_append hb, skipBlanks_cons (by decide)]
  simp only [↓reduceIte, h]
  rw [skipBlanks_append hb', skipBlanks_cons (by decide)]
  simp

theorem value_array_nil (hb : ∀ c ∈ blanks, isBlank c = true) :
    r.value open_ ('[' :: (blanks ++ ']' :: rest)) = .ok (.complete (r.array []), open_, rest) := by
  unfold value
  rw [skipBlanks_cons (by decide)]
  simp only [opened, skipBlanks_append hb, skipBlanks_cons (show isBlank ']' = false by decide)]
  rfl

theorem value_object_nil (hb : ∀ c ∈ blanks, isBlank c = true) :
    r.value open_ ('{' :: (blanks ++ '}' :: rest)) =
      .ok (.complete (r.object []), open_, rest) := by
  unfold value
  rw [skipBlanks_cons (by decide)]
  simp only [opened, skipBlanks_append hb, skipBlanks_cons (show isBlank '}' = false by decide)]
  rfl

/-- A bracket that opens an array with an item in it. -/
theorem value_array {c : Char} (hb : ∀ c ∈ blanks, isBlank c = true) (hc : isBlank c = false)
    (hclose : c ≠ ']') : r.value open_ ('[' :: (blanks ++ c :: rest)) =
      .ok (.value, .array [] :: open_, c :: rest) := by
  unfold value
  rw [skipBlanks_cons (by decide)]
  simp only [opened, skipBlanks_append hb, skipBlanks_cons hc, hclose]
  rfl

/-- A brace that opens an object with a member in it. -/
theorem value_object (hb : ∀ c ∈ blanks, isBlank c = true) :
    r.value open_ ('{' :: (blanks ++ '"' :: rest)) = .ok (.name [], open_, '"' :: rest) := by
  unfold value
  rw [skipBlanks_cons (by decide)]
  simp only [opened, skipBlanks_append hb, skipBlanks_cons (show isBlank '"' = false by decide)]
  rfl

end Steps

/-- Before any text that does not go on with a numeral, the machine makes `v` of `cs`. -/
def Reads (r : Reader τ α) (cs : List Char) (v : α) : Prop :=
  ∀ (open_ : List (Frame τ α)) (rest : List Char), EndsNumeral rest →
    r.run .value open_ (cs ++ rest) = r.run (.complete v) open_ rest

theorem Reads.of_value {cs : List Char} {v : α}
    (h : ∀ open_ rest, EndsNumeral rest →
      r.value open_ (cs ++ rest) = .ok (.complete v, open_, rest)) : r.Reads cs v :=
  fun open_ rest hrest => run_value (h open_ rest hrest)

theorem Reads.read_eq {cs : List Char} {v : α} (h : r.Reads cs v) : r.read cs = .ok v := by
  have hrun : r.run .value [] cs = .ok (v, []) := by
    rw [← List.append_nil cs, h [] [] endsNumeral_nil, run]
  simp [read, hrun, skipBlanks]

theorem reads_null : r.Reads "null".toList r.null :=
  .of_value fun _ _ _ => rfl

theorem reads_bool (b : Bool) : r.Reads (if b then "true" else "false").toList (r.bool b) := by
  cases b with
  | true => exact .of_value fun _ _ _ => rfl
  | false => exact .of_value fun _ _ _ => rfl

theorem reads_array_nil {blanks : List Char} (hb : ∀ c ∈ blanks, isBlank c = true) :
    r.Reads ('[' :: (blanks ++ [']'])) (r.array []) := by
  refine .of_value fun open_ rest _ => ?_
  rw [List.cons_append, List.append_assoc]
  exact value_array_nil hb

theorem reads_object_nil {blanks : List Char} (hb : ∀ c ∈ blanks, isBlank c = true) :
    r.Reads ('{' :: (blanks ++ ['}'])) (r.object []) := by
  refine .of_value fun open_ rest _ => ?_
  rw [List.cons_append, List.append_assoc]
  exact value_object_nil hb

theorem reads_text (hr : r.Interprets name make) (s : String) :
    r.Reads ('"' :: (s.toList.flatMap documentChar ++ ['"'])) (make (.text s)) := by
  refine .of_value fun open_ rest _ => ?_
  have hstring := hr.string s rest
  rw [← hr.text s, List.cons_append, List.append_assoc]
  rw [List.singleton_append, value_string, hstring]
  rfl

theorem reads_int (hr : r.Interprets name make) {n : Int} (hn : InBounds n) :
    r.Reads n.repr.toList (make (.number (.int n))) := by
  refine .of_value fun open_ rest hrest => ?_
  have hnumber := hr.number hn hrest
  obtain ⟨c, cs, h, hc⟩ := exists_cons_repr n
  rw [h, List.cons_append] at hnumber ⊢
  rw [value_number hc, hnumber]
  rfl

end Reader

/-! ## Documents -/

namespace Document

theorem Layout.endsNumeral_lineBreak (layout : Layout) (level : Nat) {c : Char}
    (hc : isDigit c = false ∧ c ≠ '.' ∧ c ≠ 'e' ∧ c ≠ 'E') (rest : List Char) :
    EndsNumeral ((layout.lineBreak level).toList ++ c :: rest) := by
  cases layout with
  | compact => exact endsNumeral_cons hc rest
  | indented =>
    rw [lineBreak, String.toList_ofList, List.cons_append]
    exact endsNumeral_cons (by decide) _

theorem answer_printing (layout : Layout) (job : PrintJob) :
    (printing layout).answer job = (printBody layout job).eval (printing layout).answer :=
  (printing layout).answer_eq job

/-- What is written for a document inside `level` containers, and what readers make of it. -/
structure Written (layout : Layout) (level : Nat) (d : Document) (cs : List Char) : Prop where
  answer_eq (front : String) :
    ((printing layout).answer ⟨d, level, front⟩).toList = front.toList ++ cs
  start : ∃ c tail, cs = c :: tail ∧ isBlank c = false ∧ c ≠ ']'
  reads {τ α : Type} {r : Reader τ α} {name : String → τ} {make : Document → α}
    (hr : r.Interprets name make) : r.Reads cs (make d)

/-- What is written after an item of an array, and what readers make of it. -/
structure WrittenItems (layout : Layout) (level : Nat) (items : List Document) (cs : List Char) :
    Prop where
  eval_eq (front : String) :
    ((printItems layout level "," items front).eval (printing layout).answer).toList =
      front.toList ++ cs
  ends (rest : List Char) : EndsNumeral (cs ++ rest)
  reads {τ α : Type} {r : Reader τ α} {name : String → τ} {make : Document → α}
    (hr : r.Interprets name make) (open_ : List (Reader.Frame τ α)) (v : α) (before : List α)
    (rest : List Char) (hrest : EndsNumeral rest) :
    r.run (.complete v) (.array before :: open_) (cs ++ rest) =
      r.run (.complete (r.array ((v :: before).reverse ++ items.map make))) open_ rest

theorem exists_writtenItems {layout : Layout} {level : Nat} {items : List Document}
    (h : ∀ d ∈ items, ∃ cs, Written layout (level + 1) d cs) :
    ∃ cs, WrittenItems layout level items cs := by
  have hb := layout.isBlank_lineBreak
  induction items with
  | nil =>
    refine ⟨(layout.lineBreak level).toList ++ [']'], ?_, ?_, ?_⟩
    · intro front
      simp [printItems]
    · intro rest
      rw [List.append_assoc]
      exact layout.endsNumeral_lineBreak level (by decide) rest
    · intro τ α r name make hr open_ v before rest hrest
      rw [List.append_assoc, List.singleton_append,
        Reader.run_complete_blanks (hb _), Reader.run_complete Reader.close_array_end]
      simp
  | cons d items ih =>
    obtain ⟨cs, hcs⟩ := h d List.mem_cons_self
    obtain ⟨tail, htail⟩ := ih fun d hd => h d (List.mem_cons_of_mem _ hd)
    refine ⟨',' :: ((layout.lineBreak (level + 1)).toList ++ (cs ++ tail)), ?_, ?_, ?_⟩
    · intro front
      simp [printItems, hcs.answer_eq, htail.eval_eq]
    · exact fun rest => endsNumeral_cons (by decide) _
    · intro τ α r name make hr open_ v before rest hrest
      -- the comma makes `v` the last item so far; what was read of `d` is the one to close next
      rw [List.cons_append, Reader.run_complete Reader.close_array_comma]
      simp only [List.append_assoc]
      rw [Reader.run_value_blanks (hb _), hcs.reads hr _ _ (htail.ends rest),
        htail.reads hr _ _ _ _ hrest]
      simp

/-- What is written after a member of an object, and what readers make of it. -/
structure WrittenMembers (layout : Layout) (level : Nat) (members : List (String × Document))
    (cs : List Char) : Prop where
  eval_eq (front : String) :
    ((printMembers layout level "," members front).eval (printing layout).answer).toList =
      front.toList ++ cs
  ends (rest : List Char) : EndsNumeral (cs ++ rest)
  reads {τ α : Type} {r : Reader τ α} {name : String → τ} {make : Document → α}
    (hr : r.Interprets name make) (open_ : List (Reader.Frame τ α)) (t : τ) (v : α)
    (before : List (τ × α)) (rest : List Char) (hrest : EndsNumeral rest) :
    r.run (.complete v) (.object before t :: open_) (cs ++ rest) =
      r.run (.complete (r.object (((t, v) :: before).reverse ++
        members.map fun m => (name m.1, make m.2)))) open_ rest

/-- A name, a colon and a value are read as a member of the object at hand. -/
theorem Written.reads_member {layout : Layout} {level : Nat} {d : Document} {cs : List Char}
    (hcs : Written layout level d cs) {τ α : Type} {r : Reader τ α} {name : String → τ}
    {make : Document → α} (hr : r.Interprets name make) (open_ : List (Reader.Frame τ α))
    (s : String) (before : List (τ × α)) {blanks rest : List Char}
    (hb : ∀ c ∈ blanks, isBlank c = true) (hrest : EndsNumeral rest) :
    r.run (.name before) open_ (blanks ++ '"' :: (s.toList.flatMap documentChar ++
        '"' :: (layout.colon.toList ++ (cs ++ rest)))) =
      r.run (.complete (make d)) (.object before (name s) :: open_) rest := by
  have hcolon : ∃ space, layout.colon.toList = ':' :: space ∧ ∀ c ∈ space, isBlank c = true := by
    cases layout with
    | compact => exact ⟨[], rfl, List.forall_mem_nil _⟩
    | indented => exact ⟨[' '], rfl, List.forall_mem_singleton.2 rfl⟩
  obtain ⟨space, hspace, hblank⟩ := hcolon
  have hname : r.string (s.toList.flatMap documentChar ++ '"' :: ':' :: (space ++ (cs ++ rest))) =
      .ok (name s, [] ++ ':' :: (space ++ (cs ++ rest))) := hr.string s _
  rw [hspace, List.cons_append,
    Reader.run_name (Reader.member_name hb (List.forall_mem_nil _) hname),
    Reader.run_value_blanks hblank, hcs.reads hr _ _ hrest]

theorem exists_writtenMembers {layout : Layout} {level : Nat} {members : List (String × Document)}
    (h : ∀ m ∈ members, ∃ cs, Written layout (level + 1) m.2 cs) :
    ∃ cs, WrittenMembers layout level members cs := by
  have hb := layout.isBlank_lineBreak
  induction members with
  | nil =>
    refine ⟨(layout.lineBreak level).toList ++ ['}'], ?_, ?_, ?_⟩
    · intro front
      simp [printMembers]
    · intro rest
      rw [List.append_assoc]
      exact layout.endsNumeral_lineBreak level (by decide) rest
    · intro τ α r name make hr open_ t v before rest hrest
      rw [List.append_assoc, List.singleton_append,
        Reader.run_complete_blanks (hb _), Reader.run_complete Reader.close_object_end]
      simp
  | cons m members ih =>
    obtain ⟨cs, hcs⟩ := h m List.mem_cons_self
    obtain ⟨tail, htail⟩ := ih fun m hm => h m (List.mem_cons_of_mem _ hm)
    refine ⟨',' :: ((layout.lineBreak (level + 1)).toList ++ '"' ::
      (m.1.toList.flatMap documentChar ++ '"' :: (layout.colon.toList ++ (cs ++ tail)))),
      ?_, ?_, ?_⟩
    · intro front
      simp [printMembers, hcs.answer_eq, htail.eval_eq, Text.toList_appendQuoted]
    · exact fun rest => endsNumeral_cons (by decide) _
    · intro τ α r name make hr open_ t v before rest hrest
      rw [List.cons_append, Reader.run_complete Reader.close_object_comma]
      simp only [List.append_assoc, List.cons_append]
      rw [hcs.reads_member hr _ _ _ (hb _) (htail.ends rest), htail.reads hr _ _ _ _ _ hrest]
      simp

theorem written_null (layout : Layout) (level : Nat) :
    Written layout level null "null".toList where
  answer_eq front := by
    rw [answer_printing]
    simp [printBody]
  start := ⟨'n', _, rfl, by decide⟩
  reads hr := hr.null ▸ Reader.reads_null

theorem written_bool (layout : Layout) (level : Nat) (b : Bool) :
    Written layout level (bool b) (if b then "true" else "false").toList where
  answer_eq front := by
    rw [answer_printing]
    simp [printBody]
  start := by
    cases b with
    | true => exact ⟨'t', _, rfl, by decide⟩
    | false => exact ⟨'f', _, rfl, by decide⟩
  reads hr := hr.bool b ▸ Reader.reads_bool b

theorem written_int (layout : Layout) (level : Nat) {n : Int} (hn : InBounds n) :
    Written layout level (number (.int n)) n.repr.toList where
  answer_eq front := by
    rw [answer_printing]
    simp [printBody, Number.text]
  start := by
    obtain ⟨c, cs, h, hc⟩ := exists_cons_repr n
    refine ⟨c, cs, h, ?_⟩
    rcases hc with rfl | hc
    · decide
    · refine ⟨isBlank_of_isDigit hc, ?_⟩
      rintro rfl
      revert hc
      decide
  reads hr := Reader.reads_int hr hn

theorem written_text (layout : Layout) (level : Nat) (s : String) :
    Written layout level (text s) ('"' :: (s.toList.flatMap documentChar ++ ['"'])) where
  answer_eq front := by
    rw [answer_printing]
    exact Text.toList_appendQuoted _ _ _
  start := ⟨'"', _, rfl, by decide⟩
  reads hr := Reader.reads_text hr s

theorem written_array_nil (layout : Layout) (level : Nat) :
    Written layout level (array []) "[]".toList where
  answer_eq front := by
    rw [answer_printing]
    simp [printBody]
  start := ⟨'[', _, rfl, by decide⟩
  reads hr := hr.array [] ▸ Reader.reads_array_nil (List.forall_mem_nil _)

theorem written_object_nil (layout : Layout) (level : Nat) :
    Written layout level (object []) "\x7b\x7d".toList where
  answer_eq front := by
    rw [answer_printing]
    simp [printBody]
  start := ⟨'{', _, rfl, by decide⟩
  reads hr := hr.object [] ▸ Reader.reads_object_nil (List.forall_mem_nil _)

theorem written_array_cons {layout : Layout} {level : Nat} {d : Document} {items : List Document}
    {cs tail : List Char} (hcs : Written layout (level + 1) d cs)
    (htail : WrittenItems layout level items tail) :
    Written layout level (array (d :: items))
      ('[' :: ((layout.lineBreak (level + 1)).toList ++ (cs ++ tail))) where
  answer_eq front := by
    rw [answer_printing]
    simp [printBody, printItems, hcs.answer_eq, htail.eval_eq]
  start := ⟨'[', _, rfl, by decide⟩
  reads {τ α r name make} hr open_ rest hrest := by
    obtain ⟨c, cs', rfl, hc, hclose⟩ := hcs.start
    have hvalue := hcs.reads hr (.array [] :: open_) _ (htail.ends rest)
    simp only [List.cons_append, List.append_assoc] at hvalue ⊢
    rw [Reader.run_value (Reader.value_array (layout.isBlank_lineBreak _) hc hclose), hvalue,
      htail.reads hr _ _ _ _ hrest, ← hr.array]
    rfl

theorem written_object_cons {layout : Layout} {level : Nat} {m : String × Document}
    {members : List (String × Document)} {cs tail : List Char}
    (hcs : Written layout (level + 1) m.2 cs)
    (htail : WrittenMembers layout level members tail) :
    Written layout level (object (m :: members))
      ('{' :: ((layout.lineBreak (level + 1)).toList ++ '"' ::
        (m.1.toList.flatMap documentChar ++ '"' :: (layout.colon.toList ++ (cs ++ tail))))) where
  answer_eq front := by
    rw [answer_printing]
    simp [printBody, printMembers, hcs.answer_eq, htail.eval_eq,
      Text.toList_appendQuoted]
  start := ⟨'{', _, rfl, by decide⟩
  reads {τ α r name make} hr open_ rest hrest := by
    have hmember := hcs.reads_member hr open_ m.1 [] (List.forall_mem_nil _) (htail.ends rest)
    simp only [List.cons_append, List.append_assoc, List.nil_append] at hmember ⊢
    rw [Reader.run_value (Reader.value_object (layout.isBlank_lineBreak _)), hmember,
      htail.reads hr _ _ _ _ _ hrest, ← hr.object]
    rfl

/-- Every document of integers is written as a text from which readers make it again. -/
theorem Exact.exists_written {d : Document} (hd : d.Exact) (layout : Layout) (level : Nat) :
    ∃ cs, Written layout level d cs := by
  induction hd generalizing level with
  | null => exact ⟨_, written_null layout level⟩
  | bool b => exact ⟨_, written_bool layout level b⟩
  | number hn => exact ⟨_, written_int layout level hn⟩
  | text s => exact ⟨_, written_text layout level s⟩
  | @array items _ ih =>
    cases items with
    | nil => exact ⟨_, written_array_nil layout level⟩
    | cons d items =>
      obtain ⟨cs, hcs⟩ := ih d List.mem_cons_self (level + 1)
      obtain ⟨tail, htail⟩ := exists_writtenItems fun d hd =>
        ih d (List.mem_cons_of_mem _ hd) (level + 1)
      exact ⟨_, written_array_cons hcs htail⟩
  | @object members _ ih =>
    cases members with
    | nil => exact ⟨_, written_object_nil layout level⟩
    | cons m members =>
      obtain ⟨cs, hcs⟩ := ih m List.mem_cons_self (level + 1)
      obtain ⟨tail, htail⟩ := exists_writtenMembers fun m hm =>
        ih m (List.mem_cons_of_mem _ hm) (level + 1)
      exact ⟨_, written_object_cons hcs htail⟩

/-- A document of integers is read back from its text, with members sorted. -/
theorem ofText_print {d : Document} (hd : d.Exact) (layout : Layout) :
    ofText (d.print layout) = .ok d.sorted := by
  obtain ⟨cs, hcs⟩ := hd.exists_written layout 0
  have hprint : (d.print layout).toList = cs := hcs.answer_eq ""
  have houtline := (hcs.reads Reader.interprets_outline).read_eq
  have hfull := (hcs.reads Reader.interprets_full).read_eq
  simp only [ofText, hprint, houtline, hfull]
  rfl

/-! ## Members of a sorted object -/

/-- In a list with distinct names, looking a name up finds the member that has it. -/
theorem member?_eq_some_iff {members : List (String × Document)}
    (hnames : members.Pairwise fun a b => a.1 ≠ b.1) {name : String} {d : Document} :
    member? name members = some d ↔ (name, d) ∈ members := by
  refine ⟨mem_of_member?, fun h => ?_⟩
  induction hnames with
  | nil => cases h
  | @cons m rest hm _ ih =>
    rw [member?, List.lookup_cons]
    rcases List.mem_cons.1 h with rfl | h
    · simp
    · have hne : (name == m.1) = false := beq_false_of_ne (hm _ h).symm
      rw [hne]
      exact ih h

theorem pairwise_names_sortMembers (members : List (String × Document)) :
    (Reader.sortMembers members).Pairwise fun a b => a.1 ≠ b.1 := by
  refine Std.TreeMap.distinct_keys_toList.imp fun h heq => h ?_
  rw [heq]
  exact Std.ReflCmp.compare_self

/-- Sorting members with distinct names loses none of them. -/
theorem mem_sortMembers {members : List (String × Document)}
    (hnames : members.Pairwise fun a b => a.1 ≠ b.1) {m : String × Document} :
    m ∈ Reader.sortMembers members ↔ m ∈ members := by
  obtain ⟨name, d⟩ := m
  have hcompare : members.Pairwise fun a b => ¬compare a.1 b.1 = .eq :=
    hnames.imp fun h heq => h (Std.LawfulEqCmp.eq_of_compare heq)
  have hfound : ∀ e, (name, e) ∈ members → (Std.TreeMap.ofList members)[name]? = some e :=
    fun e he => Std.TreeMap.getElem?_ofList_of_mem Std.ReflCmp.compare_self hcompare he
  rw [Reader.sortMembers, Std.TreeMap.mem_toList_iff_getElem?_eq_some]
  refine ⟨fun h => ?_, hfound d⟩
  by_cases hname : name ∈ members.map Prod.fst
  · obtain ⟨⟨_, e⟩, he, rfl⟩ := List.mem_map.1 hname
    rw [hfound e he] at h
    cases h
    exact he
  · have hnone : (Std.TreeMap.ofList members)[name]? = none :=
      Std.TreeMap.getElem?_ofList_of_contains_eq_false (by simpa using hname)
    rw [hnone] at h
    cases h

/-- A sorted object has the members of the object, each of them sorted. -/
theorem sorted_object_members (members : List (String × Document))
    (hnames : (members.map Prod.fst).Nodup) :
    ∃ members', (object members).sorted = object members' ∧
      ∀ m ∈ members, member? m.1 members' = some m.2.sorted := by
  have hpairs : (members.map fun m => (m.1, m.2.sorted)).Pairwise fun a b => a.1 ≠ b.1 :=
    List.pairwise_map.2 (List.pairwise_map.1 hnames)
  refine ⟨_, sorted_object members, fun m hm => ?_⟩
  rw [member?_eq_some_iff (pairwise_names_sortMembers _), mem_sortMembers hpairs]
  exact List.mem_map.2 ⟨m, hm, rfl⟩

end Document

end Treewalk
