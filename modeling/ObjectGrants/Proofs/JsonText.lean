import ObjectGrants.Proofs.JsonScan

/-! Texts and what they are read as. A text that is read by itself is read the same as a part of
another text, so an object is read from the texts of its names and of what they stand for. The
text of a value is read as that value.
-/

namespace ObjectGrants.Json

open Lexeme
open Reader (Frame State)

-----------------------------------------------------------------------------------------
-- What is scanned
-----------------------------------------------------------------------------------------

/-- `written` is scanned into `lexemes` whatever follows. -/
def Scans (written : List Char) (lexemes : List Lexeme) : Prop :=
  ∀ rest,
    scanFrom .between (written.map some ++ rest)
    = (scanFrom .between rest).map (lexemes ++ ·)

theorem Scans.nil : Scans [] [] := by
  intro rest
  simp

theorem Scans.append {written more : List Char} {lexemes others : List Lexeme}
    (first : Scans written lexemes) (second : Scans more others)
    : Scans (written ++ more) (lexemes ++ others) := by
  intro rest
  rw [List.map_append, List.append_assoc, first, second, Option.map_map]
  simp only [Function.comp_def, List.append_assoc]

theorem Scans.mark {c : Char} {lexeme : Lexeme} (alone : begin c = ([lexeme], .between))
    : Scans [c] [lexeme] :=
  scanFrom_of_step (congrArg some alone)

theorem EndsWord.of_map {c : Char} {lexeme : Lexeme} (alone : begin c = ([lexeme], .between))
    (more : List Char) (rest : List (Option Char))
    : EndsWord ((c :: more).map some ++ rest) :=
  .before alone (more.map some ++ rest)

/-- What is scanned to the end is scanned the same in front of a rest that ends a word, by
induction on it.
-/
theorem scanFrom_append {progress : Progress} {written : List (Option Char)}
    {lexemes : List Lexeme} (scanned : scanFrom progress written = some lexemes)
    {rest : List (Option Char)} (ends : EndsWord rest)
    : scanFrom progress (written ++ rest) = (scanFrom .between rest).map (lexemes ++ ·) := by
  induction written generalizing progress lexemes with
  | nil =>
      change finish progress = some lexemes at scanned
      cases progress with
      | between =>
          obtain rfl := Option.some.inj scanned
          simp
      | inWord word =>
          obtain ⟨lexeme, means, rfl⟩ := Option.map_eq_some_iff.mp scanned
          exact @scanFrom_inWord [] lexeme _ nofun ends word (by simpa using means)
      | inString pieces => exact nomatch scanned
      | afterBackslash pieces => exact nomatch scanned
      | inUnit pieces digits code => exact nomatch scanned
  | cons c written ih =>
      simp only [scanFrom, Option.bind_eq_bind, Option.bind_eq_some_iff] at scanned
      obtain ⟨⟨first, next⟩, taken, others, later, same⟩ := scanned
      obtain rfl := Option.some.inj same
      rw [List.cons_append, scanFrom_of_step taken, ih later, Option.map_map]
      simp only [Function.comp_def, List.append_assoc]

/-- A text in front of a lexeme of a single character. -/
theorem Scans.of_scan {written more : List Char} {lexemes others : List Lexeme}
    (scanned : Lexeme.scan (written.map some) = some lexemes) {c : Char} {mark : Lexeme}
    (alone : begin c = ([mark], .between)) (rest : Scans more others)
    : Scans (written ++ c :: more) (lexemes ++ mark :: others) := by
  intro later
  have marked : Scans (c :: more) (mark :: others) := (Scans.mark alone).append rest
  rw [List.map_append, List.append_assoc, scanFrom_append scanned (.of_map alone more later),
    marked, Option.map_map]
  simp only [Function.comp_def, List.append_assoc]

/-- White space is scanned into nothing. -/
theorem Scans.spaces {written : List Char} (blank : ∀ c ∈ written, isSpace c = true)
    : Scans written [] := by
  induction written with
  | nil => exact .nil
  | cons c written ih =>
      intro rest
      have passed : step .between (some c) = some ([], .between) := by
        simp [step, begin, blank c List.mem_cons_self]
      rw [List.map_cons, List.cons_append, scanFrom_of_silent passed]
      exact ih (fun d member => blank d (List.mem_cons_of_mem c member)) rest

-----------------------------------------------------------------------------------------
-- What is read
-----------------------------------------------------------------------------------------

/-- There is a first lexeme, and it does not end an array. -/
def Opens (lexemes : List Lexeme) : Prop :=
  ∃ first rest, lexemes = first :: rest ∧ first ≠ .closeBracket

theorem Opens.append {lexemes : List Lexeme} (opens : Opens lexemes) (others : List Lexeme)
    : Opens (lexemes ++ others) := by
  obtain ⟨first, rest, rfl, goes_on⟩ := opens
  exact ⟨first, rest ++ others, rfl, goes_on⟩

/-- Such lexemes are read the same as the first item of an array and as a later one. -/
theorem Opens.foldlM {lexemes : List Lexeme} (opens : Opens lexemes) (frames : List Frame)
    : lexemes.foldlM State.step (.awaitFirstItem frames)
      = lexemes.foldlM State.step (.awaitValue (.items [] :: frames)) := by
  obtain ⟨first, rest, rfl, goes_on⟩ := opens
  simp [State.step, goes_on]

/-- `written` is scanned into `lexemes` in front of every rest that ends a word, and where a
value is due these are read as `document`.
-/
structure Writes (written : List Char) (lexemes : List Lexeme) (document : Document)
    : Prop where
  scanned
    : ∀ rest,
        EndsWord rest
        → scanFrom .between (written.map some ++ rest)
          = (scanFrom .between rest).map (lexemes ++ ·)
  read
    : ∀ frames,
        lexemes.foldlM State.step (.awaitValue frames) = some (State.settle document frames)
  opens : Opens lexemes

namespace Reader.State

/-- The same standing of a reading with something unfinished around it. -/
def within (frames : List Frame) : State → State
  | .awaitValue own => .awaitValue (own ++ frames)
  | .awaitFirstItem own => .awaitFirstItem (own ++ frames)
  | .awaitFirstName own => .awaitFirstName (own ++ frames)
  | .awaitName done own => .awaitName done (own ++ frames)
  | .awaitColon done name own => .awaitColon done name (own ++ frames)
  | .afterItem done own => .afterItem done (own ++ frames)
  | .afterMember done own => .afterMember done (own ++ frames)
  | .complete document => settle document frames

theorem settle_within (document : Document) (own frames : List Frame)
    : settle document (own ++ frames) = (settle document own).within frames := by
  rcases own with _ | ⟨_ | _, own⟩ <;> rfl

theorem open_within {own : List Frame} {lexeme : Lexeme} {next : State}
    (taken : State.open own lexeme = some next) (frames : List Frame)
    : State.open (own ++ frames) lexeme = some (next.within frames) := by
  cases lexeme <;> cases taken <;> simp only [State.open, settle_within] <;> rfl

/-- A lexeme is read the same whatever is unfinished around. -/
theorem step_within {state next : State} {lexeme : Lexeme}
    (taken : state.step lexeme = some next) (frames : List Frame)
    : (state.within frames).step lexeme = some (next.within frames) := by
  cases state with
  | awaitValue own => exact open_within taken frames
  | awaitFirstItem own =>
      change (if lexeme = .closeBracket then some (settle (.array []) own)
        else State.open (.items [] :: own) lexeme) = some next at taken
      change (if lexeme = .closeBracket then some (settle (.array []) (own ++ frames))
        else State.open (.items [] :: own ++ frames) lexeme) = some (next.within frames)
      split at taken
      · obtain rfl := Option.some.inj taken
        rw [settle_within]
        simp only [*, if_true]
      · rw [open_within taken]
        simp only [*, if_false]
  | awaitFirstName own =>
      cases lexeme <;> cases taken
      · exact congrArg some (settle_within _ own frames)
      · rfl
  | afterItem done own | afterMember done own =>
      cases lexeme <;> cases taken
      · exact congrArg some (settle_within _ own frames)
      · rfl
  | awaitName done own | awaitColon done name own =>
      cases lexeme <;> cases taken
      rfl
  | complete document => exact nomatch taken

/-- So are all lexemes, by induction on them. -/
theorem foldlM_within {lexemes : List Lexeme} {state next : State}
    (read : lexemes.foldlM step state = some next) (frames : List Frame)
    : lexemes.foldlM step (state.within frames) = some (next.within frames) := by
  induction lexemes generalizing state with
  | nil =>
      obtain rfl := Option.some.inj read
      rfl
  | cons lexeme lexemes ih =>
      rw [List.foldlM_cons, Option.bind_eq_bind, Option.bind_eq_some_iff] at read
      obtain ⟨between, taken, later⟩ := read
      rw [List.foldlM_cons, step_within taken]
      exact ih later

theorem document?_eq_some_iff {state : State} {document : Document}
    : state.document? = some document ↔ state = .complete document := by
  cases state <;> simp [document?]

end Reader.State

/-- `written` is the text of `document`. -/
def IsText (written : List Char) (document : Document) : Prop :=
  Document.ofScalars? (written.map some) = some document

/-- What is scanned and read by itself is a text. -/
theorem IsText.of_read {written : List Char} {lexemes : List Lexeme} {document : Document}
    (scanned : Lexeme.scan (written.map some) = some lexemes)
    (read
      : ∀ frames,
          lexemes.foldlM State.step (.awaitValue frames)
          = some (State.settle document frames))
    : IsText written document := by
  rw [IsText, Document.ofScalars?, scanned, Option.bind_some, Document.ofLexemes?, read]
  rfl

theorem Writes.scan {written : List Char} {lexemes : List Lexeme} {document : Document}
    (writes : Writes written lexemes document)
    : Lexeme.scan (written.map some) = some lexemes := by
  simpa [Lexeme.scan, scanFrom, finish] using writes.scanned [] .atEnd

/-- A value in front of a lexeme of a single character. -/
theorem Writes.followed {written more : List Char} {lexemes others : List Lexeme}
    {document : Document} (writes : Writes written lexemes document) {c : Char} {mark : Lexeme}
    (alone : begin c = ([mark], .between)) (rest : Scans more others)
    : Scans (written ++ c :: more) (lexemes ++ mark :: others) :=
  .of_scan writes.scan alone rest

/-- A text is a part of other texts in front of every rest that ends a word, and wherever a value
is due.
-/
theorem isText_iff {written : List Char} {document : Document}
    : IsText written document ↔ ∃ lexemes, Writes written lexemes document := by
  constructor
  · intro text
    obtain ⟨lexemes, scanned, read⟩ := Option.bind_eq_some_iff.mp text
    obtain ⟨last, read, complete⟩ := Option.bind_eq_some_iff.mp read
    obtain rfl := Reader.State.document?_eq_some_iff.mp complete
    refine ⟨lexemes, fun rest ends => scanFrom_append scanned ends,
      fun frames => Reader.State.foldlM_within read frames, ?_⟩
    cases lexemes with
    | nil => exact nomatch read
    | cons first rest =>
        refine ⟨first, rest, rfl, ?_⟩
        rintro rfl
        exact nomatch read
  · rintro ⟨lexemes, writes⟩
    exact .of_read writes.scan writes.read

-----------------------------------------------------------------------------------------
-- Objects
-----------------------------------------------------------------------------------------

/-- `written` is the text of a string that reads `name`. -/
def IsName (written : List Char) (name : String) : Prop :=
  ∃ pieces,
    Lexeme.scan (written.map some) = some [.string pieces] ∧ Reader.text? pieces = some name

theorem isName_quoted (name : String) : IsName (Writer.quoted name) name := by
  obtain ⟨pieces, scanned, read⟩ := exists_quoted name
  exact ⟨pieces, by simpa [Lexeme.scan, scanFrom, finish] using scanned [], read⟩

/-- `written` lists `members`: the text of a name, a colon and the text of what it stands for, with
commas between.
-/
inductive AreMembers : List Char → List (String × Document) → Prop
  | last {nameText valueText name document} (named : IsName nameText name)
    (value : IsText valueText document)
    : AreMembers (nameText ++ ':' :: valueText) [(name, document)]
  | more {nameText valueText others name document members} (named : IsName nameText name)
    (value : IsText valueText document) (rest : AreMembers others members)
    : AreMembers (nameText ++ ':' :: valueText ++ ',' :: others) ((name, document) :: members)

/-- A member that is followed by a mark is scanned and read by itself. -/
theorem exists_reads_member {nameText valueText : List Char} {name : String}
    {document : Document} (named : IsName nameText name) (value : IsText valueText document)
    : ∃ pieces lexemes,
        (∀ {c : Char} {mark : Lexeme} {more : List Char} {others : List Lexeme},
          begin c = ([mark], .between)
          → Scans more others
          → Scans (nameText ++ ':' :: valueText ++ c :: more)
              (.string pieces :: lexemes ++ mark :: others))
        ∧ ∀ done frames,
            (.string pieces :: lexemes).foldlM State.step (.awaitName done frames)
            = some (.afterMember ((some name, document) :: done) frames) := by
  obtain ⟨pieces, scanned, text⟩ := named
  obtain ⟨lexemes, writes⟩ := isText_iff.mp value
  refine ⟨pieces, .colon :: lexemes, fun alone rest => ?_, fun done frames => ?_⟩
  · simpa using Scans.of_scan scanned (c := ':') rfl (writes.followed alone rest)
  · simp [State.step, text, writes.read, State.settle]

/-- The members of an object that is not empty, with its closing brace. Witness: induction on the
members; a comma or the brace follows each of them, so each is scanned and read by itself.
-/
theorem AreMembers.exists_reads {written : List Char} {members : List (String × Document)}
    (listed : AreMembers written members)
    : ∃ pieces lexemes,
        Scans (written ++ ['\x7d']) (.string pieces :: lexemes)
        ∧ ∀ done frames,
            (.string pieces :: lexemes).foldlM State.step (.awaitName done frames)
            = some
                (State.settle
                  (Document.ofMembers
                    (done.reverse ++ members.map fun member => (some member.1, member.2)))
                  frames) := by
  induction listed with
  | last named value =>
      obtain ⟨pieces, lexemes, scans, read⟩ := exists_reads_member named value
      refine ⟨pieces, lexemes ++ [Lexeme.closeBrace], scans (c := '\x7d') rfl .nil,
        fun done frames => ?_⟩
      rw [← List.cons_append, List.foldlM_append, read]
      simp [State.step]
  | @more _ _ _ name document _ named value _ ih =>
      obtain ⟨pieces, lexemes, scans, read⟩ := exists_reads_member named value
      obtain ⟨next_pieces, others, rest_scans, rest_read⟩ := ih
      refine ⟨pieces, lexemes ++ .comma :: .string next_pieces :: others, ?_,
        fun done frames => ?_⟩
      · simpa using scans (c := ',') rfl rest_scans
      · have whole := rest_read ((some name, document) :: done) frames
        rw [← List.cons_append, List.foldlM_append, read]
        simpa [State.step] using whole

/-- An object whose names are texts is that object. -/
theorem ofMembers_named (members : List (String × Document))
    : Document.ofMembers (members.map fun member => (some member.1, member.2))
      = .object members := by
  have read_back {read : Option String × Document → Option (String × Document)}
      (named : ∀ name document, read (some name, document) = some (name, document))
      : (members.map fun member => (some member.1, member.2)).mapM read = some members := by
    induction members with
    | nil => rfl
    | cons member members ih => simp [named, ih]
  rw [Document.ofMembers, read_back fun _ _ => rfl]

/-- An object between braces is scanned and read by itself, and begins with a brace. -/
theorem AreMembers.exists_writes {written : List Char} {members : List (String × Document)}
    (listed : AreMembers written members)
    : ∃ lexemes,
        Scans ('\x7b' :: written ++ ['\x7d']) (.openBrace :: lexemes)
        ∧ ∀ frames,
            (Lexeme.openBrace :: lexemes).foldlM State.step (.awaitValue frames)
            = some (State.settle (.object members) frames) := by
  obtain ⟨pieces, lexemes, scans, read⟩ := listed.exists_reads
  refine ⟨.string pieces :: lexemes, (Scans.mark (c := '\x7b') rfl).append scans,
    fun frames => ?_⟩
  have whole := read [] frames
  rw [List.reverse_nil, List.nil_append, ofMembers_named] at whole
  exact whole

/-- `written` is an object with `members`: between braces, and with white space around. -/
inductive IsObject : List Char → List (String × Document) → Prop
  | empty {before inside behind : List Char}
    (blank : ∀ c ∈ before ++ inside ++ behind, isSpace c = true)
    : IsObject (before ++ '\x7b' :: inside ++ '\x7d' :: behind) []
  | filled {before written behind members} (blank : ∀ c ∈ before ++ behind, isSpace c = true)
    (listed : AreMembers written members)
    : IsObject (before ++ '\x7b' :: written ++ '\x7d' :: behind) members

theorem Scans.scan {written : List Char} {lexemes : List Lexeme} (scans : Scans written lexemes)
    : Lexeme.scan (written.map some) = some lexemes := by
  simpa [Lexeme.scan, scanFrom, finish] using scans []

/-- An object is read with the members that it lists, in the order in which it lists them. -/
theorem IsObject.isText {written : List Char} {members : List (String × Document)}
    (object : IsObject written members)
    : IsText written (.object members) := by
  cases object with
  | @empty before inside behind blank =>
      simp only [List.forall_mem_append] at blank
      have braces : Scans ('\x7b' :: inside ++ ['\x7d']) [.openBrace, .closeBrace] :=
        ((Scans.mark rfl).append (.spaces blank.1.2)).append (Scans.mark rfl)
      have whole := ((Scans.spaces blank.1.1).append braces).append (.spaces blank.2)
      refine .of_read (by simpa using whole.scan) fun frames => rfl
  | @filled before _ behind _ blank listed =>
      simp only [List.forall_mem_append] at blank
      obtain ⟨lexemes, braces, read⟩ := listed.exists_writes
      have whole := ((Scans.spaces blank.1).append braces).append (.spaces blank.2)
      exact .of_read (by simpa using whole.scan) read

-----------------------------------------------------------------------------------------
-- Values
-----------------------------------------------------------------------------------------

/-- The values whose numbers are integers that 64 bits hold. -/
inductive Integral : Value → Prop
  | null : Integral .null
  | bool (value : Bool) : Integral (.bool value)
  | number {value : Int} (range : InRange value) : Integral (.number (.integer value))
  | string (text : String) : Integral (.string text)
  | array {items : List Value} (within : ∀ item ∈ items, Integral item)
      : Integral (.array items)
  | object {members : List (String × Value)} (within : ∀ member ∈ members, Integral member.2)
      : Integral (.object members)

/-- A value that is a single lexeme. -/
theorem Writes.single {written : List Char} {lexeme : Lexeme} {document : Document}
    (scanned
      : ∀ rest,
          EndsWord rest
          → scanFrom .between (written.map some ++ rest)
            = (scanFrom .between rest).map (lexeme :: ·))
    (read : ∀ frames, State.open frames lexeme = some (State.settle document frames))
    : Writes written [lexeme] document := by
  refine ⟨scanned, fun frames => ?_, lexeme, [], rfl, ?_⟩
  · simp [State.step, read]
  · rintro rfl
    cases read []

theorem Writes.word {word : List Char} {lexeme : Lexeme} {document : Document}
    (within : ∀ c ∈ word, InWord c) (means : ofWord? word = some lexeme)
    (read : ∀ frames, State.open frames lexeme = some (State.settle document frames))
    : Writes word [lexeme] document :=
  .single (fun _ ends => scanFrom_word within ends means) read

/-- A literal name. -/
theorem Writes.name {word : List Char} {lexeme : Lexeme} {document : Document}
    (within : word.all fun c => InWord c) (means : ofWord? word = some lexeme)
    (read : ∀ frames, State.open frames lexeme = some (State.settle document frames))
    : Writes word [lexeme] document :=
  .word (fun c member => of_decide_eq_true (List.all_eq_true.mp within c member)) means read

theorem exists_writes_string (text : String)
    : ∃ lexemes, Writes (Writer.quoted text) lexemes (.string text) := by
  obtain ⟨pieces, scanned, read⟩ := exists_quoted text
  exact ⟨_, .single (fun rest _ => scanned rest) fun frames => by simp [State.open, read]⟩

theorem exists_writes_integer {value : Int} (range : InRange value)
    : ∃ lexemes,
        Writes (Writer.number (.integer value)) lexemes (.number (.integer value)) := by
  obtain ⟨numeral, within, means, number⟩ := exists_numeral range
  exact ⟨_, .word within means fun frames => by simp [State.open, number]⟩

/-- The items of an array that is not empty, with its closing bracket. Witness: induction on the
items; a comma or the bracket follows each of them, so each is scanned and read by itself.
-/
theorem exists_reads_items (item : Value) (items : List Value)
    (writes : ∀ one ∈ item :: items, ∃ lexemes, Writes (Writer.value one) lexemes one.embed)
    : ∃ lexemes,
        Scans (Writer.array (item :: items)) lexemes
        ∧ Opens lexemes
        ∧ ∀ done frames,
            lexemes.foldlM State.step (.awaitValue (.items done :: frames))
            = some
                (State.settle (.array (done.reverse ++ Tree.embedItems (item :: items)))
                  frames) := by
  induction items generalizing item with
  | nil =>
      obtain ⟨lexemes, itself⟩ := writes item List.mem_cons_self
      refine ⟨lexemes ++ [.closeBracket], itself.followed (c := ']') rfl .nil,
        itself.opens.append _, fun done frames => ?_⟩
      rw [List.foldlM_append, itself.read]
      simp [State.settle, State.step, Tree.embedItems]
  | cons next items ih =>
      obtain ⟨lexemes, itself⟩ := writes item List.mem_cons_self
      obtain ⟨rest, scans, _, read⟩ :=
        ih next fun one member => writes one (List.mem_cons_of_mem item member)
      refine ⟨lexemes ++ .comma :: rest, itself.followed (c := ',') rfl scans,
        itself.opens.append _, fun done frames => ?_⟩
      rw [List.foldlM_append, itself.read]
      simp [State.settle, State.step, read, Tree.embedItems]

/-- A value between brackets or braces ends by itself. -/
theorem Writes.enclosed {c : Char} {mark : Lexeme} {written : List Char}
    {lexemes : List Lexeme} {document : Document} (alone : begin c = ([mark], .between))
    (starts : mark ≠ .closeBracket) (scans : Scans written lexemes)
    (read
      : ∀ frames,
          (mark :: lexemes).foldlM State.step (.awaitValue frames)
          = some (State.settle document frames))
    : Writes (c :: written) (mark :: lexemes) document :=
  ⟨fun rest _ => (Scans.mark alone).append scans rest, read, mark, lexemes, rfl, starts⟩

theorem exists_writes_array (items : List Value)
    (writes : ∀ item ∈ items, ∃ lexemes, Writes (Writer.value item) lexemes item.embed)
    : ∃ lexemes,
        Writes (Writer.value (.array items)) lexemes (.array (Tree.embedItems items)) := by
  rw [Writer.value]
  cases items with
  | nil =>
      exact ⟨_, .enclosed rfl (by decide) (.mark (c := ']') rfl) fun _ => rfl⟩
  | cons item items =>
      obtain ⟨lexemes, scans, opens, read⟩ := exists_reads_items item items writes
      refine ⟨_, .enclosed rfl (by decide) scans fun frames => ?_⟩
      simp [State.step, State.open, opens.foldlM, read]

/-- The members of a value are written as a list of members. -/
theorem exists_areMembers (member : String × Value) (members : List (String × Value))
    (writes : ∀ one ∈ member :: members, ∃ lexemes, Writes (Writer.value one.2) lexemes one.2.embed)
    : ∃ written,
        Writer.object (member :: members) = written ++ ['\x7d']
        ∧ AreMembers written (Tree.embedMembers (member :: members)) := by
  induction members generalizing member with
  | nil =>
      have value := isText_iff.mpr (writes member List.mem_cons_self)
      exact ⟨_, rfl, .last (isName_quoted member.1) value⟩
  | cons next members ih =>
      have value := isText_iff.mpr (writes member List.mem_cons_self)
      obtain ⟨others, same, rest⟩ :=
        ih next fun one among => writes one (List.mem_cons_of_mem member among)
      refine ⟨_, ?_, .more (isName_quoted member.1) value rest⟩
      rw [Writer.object, same]
      simp

theorem exists_writes_object (members : List (String × Value))
    (writes : ∀ member ∈ members, ∃ lexemes, Writes (Writer.value member.2) lexemes member.2.embed)
    : ∃ lexemes,
        Writes (Writer.value (.object members)) lexemes
          (.object (Tree.embedMembers members)) := by
  rw [Writer.value]
  cases members with
  | nil =>
      exact ⟨_, .enclosed rfl (by decide) (.mark (c := '\x7d') rfl) fun _ => rfl⟩
  | cons member members =>
      obtain ⟨written, same, listed⟩ := exists_areMembers member members writes
      obtain ⟨lexemes, scans, read⟩ := listed.exists_writes
      rw [same]
      exact ⟨_, fun rest _ => scans rest, read, .openBrace, lexemes, rfl, by decide⟩

/-- What is written for a value is scanned and read as that value. Witness: induction on the value;
its items and members are written by the same means.
-/
theorem Integral.exists_writes {value : Value} (integral : Integral value)
    : ∃ lexemes, Writes (Writer.value value) lexemes value.embed := by
  induction integral with
  | null => exact ⟨_, .name rfl rfl fun _ => rfl⟩
  | bool value =>
      cases value with
      | true => exact ⟨_, .name rfl rfl fun _ => rfl⟩
      | false => exact ⟨_, .name rfl rfl fun _ => rfl⟩
  | number range => exact exists_writes_integer range
  | string text => exact exists_writes_string text
  | array _ ih => exact exists_writes_array _ ih
  | object _ ih => exact exists_writes_object _ ih

/-- The text of a value is read as that value, with its members in the order they have. -/
theorem Integral.ofText?_text {value : Value} (integral : Integral value)
    : Document.ofText? value.text = some value.embed := by
  rw [Document.ofText?, Value.text, String.toList_ofList]
  exact isText_iff.mpr integral.exists_writes

/-- The bytes of a text are read as that text. -/
theorem Document.ofBytes?_encode (text : String)
    : Document.ofBytes? (Text.Utf8.encode text) = Document.ofText? text := by
  rw [Document.ofBytes?, Text.Utf8.scan_encode, Document.ofText?]

end ObjectGrants.Json
