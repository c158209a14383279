import Dispatch.Proofs.Toml.Values
import Dispatch.Toml.Document

set_option autoImplicit false

namespace Dispatch.Toml

open Reader Writer

/-! ## Keys -/

structure Bare (key : String) : Prop where
  nonempty : key.toList ≠ []
  bare : ∀ c ∈ key.toList, isBare c = true

instance (key : String) : Decidable (Bare key) :=
  decidable_of_iff (key.toList ≠ [] ∧ key.toList.all isBare = true)
    ⟨fun bare => ⟨bare.1, List.all_eq_true.1 bare.2⟩, fun bare => ⟨bare.nonempty, List.all_eq_true.2 bare.bare⟩⟩

theorem bare_visible {c : Char} (bare : isBare c = true) :
    isBlank c = false ∧ c ∉ ['[', '"', '\'', '#', '\n', '\r', '.', '\uFEFF'] := by
  have other {d : Char} (not_bare : isBare d = false) : c ≠ d := by
    rintro rfl
    rw [bare] at not_bare
    cases not_bare
  simp [isBlank, other (d := ' ') (by decide), other (d := '\t') (by decide), other (d := '[') (by decide),
    other (d := '"') (by decide), other (d := '\'') (by decide), other (d := '#') (by decide),
    other (d := '\n') (by decide), other (d := '\r') (by decide), other (d := '.') (by decide),
    other (d := '\uFEFF') (by decide)]

theorem Bare.opens {key : String} (bare : Bare key) :
    ∃ first more, key.toList = first :: more ∧ isBare first = true := by
  obtain ⟨first, more, split⟩ := List.exists_cons_of_ne_nil bare.nonempty
  exact ⟨first, more, split, bare.bare first (by simp [split])⟩

theorem skipBlanks_visible {c : Char} (visible : isBlank c = false) (rest : List Char) :
    skipBlanks (c :: rest) = c :: rest := by
  simp [skipBlanks, visible]

theorem simpleKey_bare {key : String} (bare : Bare key) {next : Char} (ends : isBare next = false) (rest : List Char) :
    simpleKey (key.toList ++ next :: rest) = some (key, next :: rest) := by
  obtain ⟨first, more, split, begins⟩ := bare.opens
  have name : (key.toList ++ next :: rest).takeWhile isBare = key.toList := by
    rw [List.takeWhile_append_of_pos bare.bare]
    simp [ends]
  have visible := (bare_visible begins).2
  unfold simpleKey
  split
  · simp_all
  · simp_all
  · simp [name, bare.nonempty]

theorem key_bare {key : String} (bare : Bare key) (next : Char) (rest : List Char) {other : Char} {after : List Char}
    (ends : isBare next = false) (skipped : skipBlanks (next :: rest) = other :: after) (dotless : other ≠ '.') :
    Reader.key (key.toList ++ next :: rest) = some ([key], other :: after) := by
  obtain ⟨first, more, split, begins⟩ := bare.opens
  have visible := (bare_visible begins).1
  have read := simpleKey_bare bare ends rest
  rw [split, List.cons_append] at read ⊢
  show keyOf (79 + 1) _ = _
  rw [keyOf, skipBlanks_visible visible, read]
  simp only [Option.bind_eq_bind, Option.bind_some, skipped]
  split
  · simp_all
  · rfl

/-! ## Lines -/

theorem value_opens {v : Value} (writable : Writable v) :
    ∃ first more, Writer.scalar v = first :: more ∧ isBlank first = false := by
  cases writable with
  | string text =>
      obtain ⟨quote, more, begins, opens⟩ := string_opens text
      exact ⟨quote, more, begins, by rcases opens with rfl | rfl <;> decide⟩
  | @integer n =>
      obtain ⟨first, more, begins, digit⟩ := digits_opens n
      refine ⟨first, more, begins, ?_⟩
      simp [isBlank, digit_ne digit (d := ' ') (by decide), digit_ne digit (d := '\t') (by decide)]
  | boolean b => cases b <;> exact ⟨_, _, rfl, by decide⟩

theorem depth_written {v : Value} (writable : Writable v) : depth v = 0 := by
  cases writable <;> rfl

theorem assignment_read {key : String} (bare : Bare key) {v : Value} (writable : Writable v) (rest : List Char) :
    statement (key.toList ++ " = ".toList ++ Writer.scalar v ++ '\n' :: rest) =
      some (.assign [key] v, '\n' :: rest) := by
  obtain ⟨first, more, split, begins⟩ := bare.opens
  obtain ⟨opening, others, written, visible⟩ := value_opens writable
  have unbracketed : first ≠ '[' := fun same => (bare_visible begins).2 (by simp [same])
  have read := key_bare bare ' ' ('=' :: ' ' :: (Writer.scalar v ++ '\n' :: rest)) (by decide) rfl (by decide)
  have skipped : skipBlanks (' ' :: (Writer.scalar v ++ '\n' :: rest)) = Writer.scalar v ++ '\n' :: rest := by
    rw [written]
    exact skipBlanks_visible visible _
  have assigned := value_written writable (' ' :: (Writer.scalar v ++ '\n' :: rest)).length rest
  have shallow : ¬depth v > maxDepth := by simp [depth_written writable]
  have text : key.toList ++ " = ".toList ++ Writer.scalar v ++ '\n' :: rest =
      key.toList ++ ' ' :: '=' :: ' ' :: (Writer.scalar v ++ '\n' :: rest) := by simp
  rw [text]
  unfold statement
  split
  · simp_all
  · simp_all
  · rw [read]
    simp only [Option.bind_eq_bind, Option.bind_some, expect, if_true, skipped, assigned, if_neg shallow]
    rfl

theorem header_read {name : String} (bare : Bare name) (rest : List Char) :
    statement ('[' :: (name.toList ++ [']']) ++ '\n' :: rest) = some (.header [name], '\n' :: rest) := by
  obtain ⟨first, more, split, begins⟩ := bare.opens
  have unbracketed : first ≠ '[' := fun same => (bare_visible begins).2 (by simp [same])
  have read := key_bare bare ']' ('\n' :: rest) (by decide) rfl (by decide)
  have text : '[' :: (name.toList ++ [']']) ++ '\n' :: rest = '[' :: (name.toList ++ ']' :: '\n' :: rest) := by simp
  rw [text]
  unfold statement
  split
  · simp_all
  · rename_i same
    rw [← (List.cons.inj same).2, read]
    rfl
  · rename_i other
    exact absurd rfl (other _)

/-! ## Statements -/

/-- A line that is read as a statement, whatever follows its end; it may have an empty line before it. -/
structure Line (text : List Char) (s : Statement) : Prop where
  read : ∀ rest, statement (text ++ '\n' :: rest) = some (s, '\n' :: rest)
  visible : ∃ first more, text = first :: more ∧ isBlank first = false ∧ first ∉ ['#', '\n', '\r']

theorem skipSpace_visible {first : Char} (blank : isBlank first = false) (other : first ∉ ['#', '\n', '\r'])
    (rest : List Char) : skipSpace (first :: rest) = some (first :: rest) := by
  simp only [List.mem_cons, not_or] at other
  simp [skipSpace, skipLines, skipBlanks_visible blank, comment, newline?, other]

theorem skipSpace_line (rest : List Char) : skipSpace ('\n' :: rest) = skipSpace rest := rfl

theorem endOfLine_line (rest : List Char) : endOfLine ('\n' :: rest) = some rest := rfl

inductive Chunk : List Char → Statement → Prop
  | next {text : List Char} {s : Statement} (line : Line text s) : Chunk (text ++ ['\n']) s
  | apart {text : List Char} {s : Statement} (line : Line text s) : Chunk ('\n' :: (text ++ ['\n'])) s

theorem statements_line {text : List Char} {s : Statement} (line : Line text s) (fuel : Nat) (rest : List Char) :
    statements (fuel + 1) (text ++ '\n' :: rest) = (statements fuel rest).map (s :: ·) := by
  obtain ⟨first, more, begins, blank, other⟩ := line.visible
  have read := line.read rest
  rw [begins, List.cons_append] at read ⊢
  rw [statements, skipSpace_visible blank other]
  simp only [Option.bind_eq_bind, Option.bind_some, read, endOfLine_line]
  cases statements fuel rest <;> rfl

theorem statements_chunk {text : List Char} {s : Statement} (chunk : Chunk text s) (fuel : Nat) (rest : List Char) :
    statements (fuel + 1) (text ++ rest) = (statements fuel rest).map (s :: ·) := by
  cases chunk with
  | next line => simpa using statements_line line fuel rest
  | @apart text s line =>
      have read := statements_line line fuel rest
      rw [statements] at read ⊢
      simpa [skipSpace_line] using read

theorem statements_chunks (chunks : List (List Char × Statement)) (read : ∀ chunk ∈ chunks, Chunk chunk.1 chunk.2)
    {fuel : Nat} (enough : chunks.length < fuel) :
    statements fuel (chunks.flatMap Prod.fst) = some (chunks.map Prod.snd) := by
  induction chunks generalizing fuel with
  | nil =>
      obtain ⟨fuel, rfl⟩ := Nat.exists_eq_add_of_lt enough
      rfl
  | cons chunk chunks ih =>
      obtain ⟨fuel, rfl⟩ := Nat.exists_eq_add_of_lt enough
      have rest : statements (chunks.length + 1 + fuel) (chunks.flatMap Prod.fst) = some (chunks.map Prod.snd) :=
        ih (fun chunk member => read chunk (by simp [member])) (by omega)
      rw [List.flatMap_cons, statements_chunk (read chunk (by simp)), List.length_cons, rest]
      rfl

theorem Chunk.positive {text : List Char} {s : Statement} (chunk : Chunk text s) : 0 < text.length := by
  cases chunk <;> simp

theorem chunks_length (chunks : List (List Char × Statement)) (read : ∀ chunk ∈ chunks, Chunk chunk.1 chunk.2) :
    chunks.length ≤ (chunks.flatMap Prod.fst).length := by
  induction chunks with
  | nil => simp
  | cons chunk chunks ih =>
      have rest := ih fun chunk member => read chunk (by simp [member])
      have positive := (read chunk (by simp)).positive
      simp only [List.flatMap_cons, List.length_append, List.length_cons]
      omega

/-! ## Tables -/

structure Plain (t : Table) : Prop where
  name : Bare t.name
  keys : ∀ a ∈ t.assignments, Bare a.1
  values : ∀ a ∈ t.assignments, Writable a.2
  distinct : (t.assignments.map Prod.fst).Nodup

theorem Plain.of_keys {name : String} {assignments : List (String × Value)} (keys : List String)
    (same : assignments.map Prod.fst = keys) (bare : Bare name ∧ ∀ key ∈ keys, Bare key) (distinct : keys.Nodup)
    (values : ∀ a ∈ assignments, Writable a.2) : Plain ⟨name, assignments⟩ where
  name := bare.1
  keys := fun a member => bare.2 a.1 (same ▸ List.mem_map_of_mem member)
  values := values
  distinct := same ▸ distinct

def headerLine (t : Table) : List Char := '[' :: (t.name.toList ++ [']'])

def assignmentLine (a : String × Value) : List Char := a.1.toList ++ " = ".toList ++ Writer.scalar a.2

theorem header_line {t : Table} (plain : Plain t) : Line (headerLine t) (.header [t.name]) :=
  ⟨header_read plain.name, '[', _, rfl, by decide, by decide⟩

theorem assignment_line {a : String × Value} (bare : Bare a.1) (writable : Writable a.2) :
    Line (assignmentLine a) (.assign [a.1] a.2) := by
  obtain ⟨first, more, split, begins⟩ := bare.opens
  have visible := bare_visible begins
  refine ⟨assignment_read bare writable, first, more ++ " = ".toList ++ Writer.scalar a.2, ?_, visible.1, ?_⟩
  · simp [assignmentLine, split]
  · have other := visible.2
    simp only [List.mem_cons, not_or] at other ⊢
    tauto

def chunksOf (first : Bool) (t : Table) : List (List Char × Statement) :=
  ((if first then [] else ['\n']) ++ headerLine t ++ ['\n'], .header [t.name]) ::
    t.assignments.map fun a => (assignmentLine a ++ ['\n'], .assign [a.1] a.2)

theorem chunksOf_read {t : Table} (plain : Plain t) (first : Bool) :
    ∀ chunk ∈ chunksOf first t, Chunk chunk.1 chunk.2 := by
  intro chunk member
  rcases List.mem_cons.1 member with rfl | assigned
  · cases first with
    | true => exact .next (header_line plain)
    | false => exact .apart (header_line plain)
  · obtain ⟨a, inside, rfl⟩ := List.mem_map.1 assigned
    exact .next (assignment_line (plain.keys a inside) (plain.values a inside))

theorem chunksOf_text (first : Bool) (t : Table) :
    (chunksOf first t).flatMap Prod.fst = (if first then [] else ['\n']) ++ table t := by
  simp only [chunksOf, table, List.flatMap_cons, List.flatMap_map, headerLine]
  simp [assignmentLine, assignment]

def chunks : List Table → List (List Char × Statement)
  | [] => []
  | t :: rest => chunksOf true t ++ rest.flatMap (chunksOf false)

theorem chunks_text (tables : List Table) :
    (chunks tables).flatMap Prod.fst = List.intercalate ['\n'] (tables.map table) := by
  cases tables with
  | nil => rfl
  | cons t tables =>
      induction tables generalizing t with
      | nil => simp [chunks, chunksOf_text, List.intercalate]
      | cons next tables ih =>
          have rest := ih next
          simp only [chunks, List.flatMap_append, List.flatMap_cons, chunksOf_text, List.map_cons] at rest ⊢
          rw [List.intercalate_cons_cons, ← rest]
          simp

def statementsOf (t : Table) : List Statement :=
  .header [t.name] :: t.assignments.map fun a => .assign [a.1] a.2

theorem chunks_statements (tables : List Table) : (chunks tables).map Prod.snd = tables.flatMap statementsOf := by
  have one (first : Bool) (t : Table) : (chunksOf first t).map Prod.snd = statementsOf t := by
    simp [chunksOf, statementsOf]
  cases tables with
  | nil => rfl
  | cons t tables => simp [chunks, one, List.map_flatMap]

theorem chunks_read {tables : List Table} (plain : ∀ t ∈ tables, Plain t) :
    ∀ chunk ∈ chunks tables, Chunk chunk.1 chunk.2 := by
  cases tables with
  | nil => simp [chunks]
  | cons t tables =>
      intro chunk member
      rcases List.mem_append.1 member with first | later
      · exact chunksOf_read (plain t (by simp)) true chunk first
      · obtain ⟨other, inside, found⟩ := List.mem_flatMap.1 later
        exact chunksOf_read (plain other (by simp [inside])) false chunk found

theorem statements_document {tables : List Table} (plain : ∀ t ∈ tables, Plain t) :
    statements? (document tables) = some (tables.flatMap statementsOf) := by
  have read := chunks_read plain
  have enough := chunks_length (chunks tables) read
  have whole := statements_chunks (chunks tables) read (Nat.lt_succ_of_le enough)
  rw [chunks_text, chunks_statements] at whole
  rw [statements?, document, String.toList_ofList]
  cases tables with
  | nil => rfl
  | cons t tables =>
      obtain ⟨more, opens⟩ : ∃ more, List.intercalate ['\n'] ((t :: tables).map table) = '[' :: more := by
        rw [← chunks_text]
        exact ⟨_, rfl⟩
      rw [opens] at whole ⊢
      exact whole

/-! ## Putting statements together -/

section Building

open Document

variable {entries : Entries}

theorem lookup_fresh {key : String} (fresh : key ∉ entries.map Prod.fst) (more : Entries) :
    (entries ++ more).lookup key = more.lookup key := by
  induction entries with
  | nil => rfl
  | cons entry entries ih =>
      obtain ⟨other, node⟩ := entry
      simp only [List.map_cons, List.mem_cons, not_or] at fresh
      have apart : (key == other) = false := by simpa using fresh.1
      simpa [List.lookup_cons, apart] using ih fresh.2

theorem put_fresh {key : String} (fresh : key ∉ entries.map Prod.fst) (node : Node) (more : Entries) :
    put key node (entries ++ more) = entries ++ put key node more := by
  induction entries with
  | nil => rfl
  | cons entry entries ih =>
      simp only [List.map_cons, List.mem_cons, not_or] at fresh
      have other : entry.1 ≠ key := fun same => fresh.1 same.symm
      simp [put, other, ih fresh.2]

def held (assignments : List (String × Value)) : Entries := assignments.map fun a => (a.1, .value a.2)

theorem held_keys (assignments : List (String × Value)) : (held assignments).map Prod.fst = assignments.map Prod.fst := by
  simp [held]

def entryOf (t : Table) : String × Node := (t.name, .table .header (held t.assignments))

theorem extend_header {name : String} (fresh : name ∉ entries.map Prod.fst) (path : List String) :
    extend (path, entries) (.header [name]) = some ([name], entries ++ [(name, .table .header [])]) := by
  have absent : entries.lookup name = none := by simpa using lookup_fresh fresh []
  have added := put_fresh fresh (.table .header []) []
  rw [List.append_nil] at added
  simp [extend, splitLast, change, defineTable, absent, added, put]

theorem assign_fresh {key : String} (fresh : key ∉ entries.map Prod.fst) (v : Value) :
    assign [key] v entries = some (entries ++ [(key, .value v)]) := by
  have absent : entries.lookup key = none := by simpa using lookup_fresh fresh []
  have added := put_fresh fresh (.value v) []
  rw [List.append_nil] at added
  simp [assign, splitLast, change, addValue, absent, added, put]

theorem extend_assign {name : String} (fresh : name ∉ entries.map Prod.fst)
    {assignments : List (String × Value)} {a : String × Value} (new : a.1 ∉ assignments.map Prod.fst) :
    extend ([name], entries ++ [(name, .table .header (held assignments))]) (.assign [a.1] a.2) =
      some ([name], entries ++ [(name, .table .header (held (assignments ++ [a])))]) := by
  have found := lookup_fresh fresh [(name, .table .header (held assignments))]
  have assigned : assign [a.1] a.2 (held assignments) = some (held (assignments ++ [a])) := by
    rw [assign_fresh (by rwa [held_keys])]
    simp [held]
  simp only [List.lookup_cons, beq_self_eq_true] at found
  simp [extend, change, found, assigned, put_fresh fresh, put]

theorem extend_assignments {name : String} (fresh : name ∉ entries.map Prod.fst) (before after : List (String × Value))
    (distinct : ((before ++ after).map Prod.fst).Nodup) :
    (after.map fun a => Statement.assign [a.1] a.2).foldlM extend
      ([name], entries ++ [(name, .table .header (held before))]) =
      some ([name], entries ++ [(name, .table .header (held (before ++ after)))]) := by
  induction after generalizing before with
  | nil => simp
  | cons a after ih =>
      have new : a.1 ∉ before.map Prod.fst := by
        rw [List.map_append, List.map_cons] at distinct
        exact fun old => (List.nodup_append.1 distinct).2.2 a.1 old a.1 (by simp) rfl
      have rest := ih (before ++ [a]) (by simpa using distinct)
      simp only [List.map_cons, List.foldlM_cons, extend_assign fresh new]
      simpa using rest

theorem extend_table {t : Table} (fresh : t.name ∉ entries.map Prod.fst) 
    (distinct : (t.assignments.map Prod.fst).Nodup) (path : List String) :
    (statementsOf t).foldlM extend (path, entries) = some ([t.name], entries ++ [entryOf t]) := by
  simp only [statementsOf, List.foldlM_cons, extend_header fresh]
  exact extend_assignments fresh [] t.assignments distinct

theorem extend_tables (tables : List Table) (distinct : (entries.map Prod.fst ++ tables.map Table.name).Nodup)
    (keys : ∀ t ∈ tables, (t.assignments.map Prod.fst).Nodup) (path : List String) :
    ((tables.flatMap statementsOf).foldlM extend (path, entries)).map Prod.snd = some (entries ++ tables.map entryOf) := by
  induction tables generalizing entries path with
  | nil => simp
  | cons t tables ih =>
      have fresh : t.name ∉ entries.map Prod.fst := fun old =>
        (List.nodup_append.1 distinct).2.2 t.name old t.name (by simp) rfl
      have rest := @ih (entries ++ [entryOf t]) (by simpa [entryOf] using distinct)
        (fun t member => keys t (by simp [member])) [t.name]
      rw [List.flatMap_cons, List.foldlM_append, extend_table fresh (keys t (by simp))]
      simpa using rest

theorem build_tables {tables : List Table} (distinct : (tables.map Table.name).Nodup)
    (keys : ∀ t ∈ tables, (t.assignments.map Prod.fst).Nodup) :
    build (tables.flatMap statementsOf) = some (tables.map entryOf) := by
  simpa [build] using @extend_tables [] tables (by simpa using distinct) keys []

/-! ## The data of a written document -/

def dataOf : Value → Tree
  | .string text => .text text
  | .integer n => .whole n
  | .boolean b => .truth b
  | _ => .nothing

def recordOf (t : Table) : String × Tree := (t.name, .record (t.assignments.map fun a => (a.1, dataOf a.2)))

theorem valueTree_written {v : Value} (writable : Writable v) (fuel : Nat) : valueTree (fuel + 1) v = some (dataOf v) := by
  cases writable <;> rfl

theorem entriesTree_map {α : Type} (items : List α) (key : α → String) (node : α → Node) (data : α → Tree) {fuel : Nat}
    (read : ∀ a ∈ items, valueTree.nodeTree fuel (node a) = some (data a)) :
    valueTree.entriesTree (fuel + 1) (items.map fun a => (key a, node a)) =
      some (.record (items.map fun a => (key a, data a))) := by
  have each : (items.map fun a => (key a, node a)).mapM (fun (entry : String × Node) => do
      return (entry.1, ← valueTree.nodeTree fuel entry.2)) = some (items.map fun a => (key a, data a)) := by
    induction items with
    | nil => rfl
    | cons a items ih =>
        have rest := ih fun a member => read a (by simp [member])
        rw [List.map_cons, List.mapM_cons, rest]
        simp [read a (by simp)]
  rw [valueTree.entriesTree, each]
  rfl

theorem entriesTree_tables {tables : List Table} (plain : ∀ t ∈ tables, Plain t) (fuel : Nat) :
    valueTree.entriesTree (fuel + 5) (tables.map entryOf) = some (.record (tables.map recordOf)) :=
  entriesTree_map tables Table.name (fun t => .table .header (held t.assignments)) _ fun t member =>
    entriesTree_map t.assignments Prod.fst (fun a => .value a.2) _ fun a inside =>
      valueTree_written ((plain t member).values a inside) fuel

end Building

theorem tree?_document {tables : List Table} (plain : ∀ t ∈ tables, Plain t) (distinct : (tables.map Table.name).Nodup)
    (nonempty : tables ≠ []) : tree? (document tables) = some (.record (tables.map recordOf)) := by
  have built := build_tables distinct fun t member => (plain t member).distinct
  obtain ⟨fuel, room⟩ : ∃ fuel, 4 * (document tables).length + 4 = fuel + 5 := by
    obtain ⟨t, rest, rfl⟩ := List.exists_cons_of_ne_nil nonempty
    have positive : 0 < (document (t :: rest)).length := by
      rw [document, String.length_ofList, ← chunks_text]
      simp [chunks, chunksOf_text, table]
    exact ⟨4 * (document (t :: rest)).length - 1, by omega⟩
  rw [tree?, statements_document plain]
  simp only [Option.bind_eq_bind, Option.bind_some, built, room, entriesTree_tables plain]

end Dispatch.Toml
