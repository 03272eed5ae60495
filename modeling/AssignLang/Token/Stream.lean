import AssignLang.Token.Source

namespace AssignLang

structure TokenStream (ν : Type := Nat) where
  scanner : Scanner ν
  peeked : Option Lexeme
  finished : Bool
deriving Inhabited

namespace TokenStream

section

variable {ν : Type} {m : Type → Type} [Monad m] [Counter ν m]

def ofCursor (cursor : Cursor ν) : TokenStream ν :=
  { scanner := { cursor, names := .empty }, peeked := none, finished := false }

def ofStringM (text : String) : m (TokenStream ν) := do
  return ofCursor (← Cursor.startM (offsetsOf text))

def ofCharsM (chars : List Char) : m (TokenStream ν) := do
  return ofCursor (← Cursor.startM (offsetsFrom 0 chars))

def nextM (stream : TokenStream ν) : m (Except LexFault Sight × TokenStream ν) :=
  match stream.peeked with
  | some lexeme => pure (.ok (.lexeme lexeme), { stream with peeked := none })
  | none => do
    let scanned ← stream.scanner.scanM
    return (scanned.1, { stream with scanner := scanned.2 })

def peekM (stream : TokenStream ν) : m (Except LexFault Sight × TokenStream ν) :=
  match stream.peeked with
  | some lexeme => pure (.ok (.lexeme lexeme), stream)
  | none => do
    match ← stream.scanner.scanM with
    | (.ok (.lexeme lexeme), scanner) =>
      return (.ok (.lexeme lexeme), { stream with scanner, peeked := some lexeme })
    | (.ok (.finish line offset), scanner) =>
      return (.ok (.finish line offset), { stream with scanner })
    | (.error fault, scanner) => return (.error fault, { stream with scanner })

def pullM (stream : TokenStream ν) : m (Option (Except LexFault Lexeme) × TokenStream ν) :=
  if stream.finished then pure (none, stream)
  else do
    match ← stream.nextM with
    | (.ok (.lexeme lexeme), stream) => return (some (.ok lexeme), stream)
    | (.ok (.finish _ _), stream) => return (none, { stream with finished := true })
    | (.error fault, stream) => return (some (.error fault), { stream with finished := true })

end

def ofString (text : String) : TokenStream := Id.run (ofStringM text)

def ofChars (chars : List Char) : TokenStream := Id.run (ofCharsM chars)

variable {ν : Type}

def line (stream : TokenStream ν) : ν := stream.scanner.cursor.line

def offset (stream : TokenStream ν) : ν := stream.scanner.cursor.offset

def names (stream : TokenStream ν) : NameTable := stream.scanner.names

def size (stream : TokenStream ν) : Nat :=
  stream.scanner.cursor.size + (if stream.peeked.isSome then 1 else 0)

variable [Counter ν Id]

def next (stream : TokenStream ν) : Except LexFault Sight × TokenStream ν := Id.run stream.nextM

def peek (stream : TokenStream ν) : Except LexFault Sight × TokenStream ν := Id.run stream.peekM

def pull (stream : TokenStream ν) : Option (Except LexFault Lexeme) × TokenStream ν :=
  Id.run stream.pullM

theorem next_eq (stream : TokenStream ν) :
    stream.next = match stream.peeked with
      | some lexeme => (.ok (.lexeme lexeme), { stream with peeked := none })
      | none => (stream.scanner.scan.1, { stream with scanner := stream.scanner.scan.2 }) := by
  unfold next nextM
  split <;> rfl

theorem peek_eq (stream : TokenStream ν) :
    stream.peek = match stream.peeked with
      | some lexeme => (.ok (.lexeme lexeme), stream)
      | none =>
        match stream.scanner.scan with
        | (.ok (.lexeme lexeme), scanner) =>
          (.ok (.lexeme lexeme), { stream with scanner, peeked := some lexeme })
        | (.ok (.finish line offset), scanner) =>
          (.ok (.finish line offset), { stream with scanner })
        | (.error fault, scanner) => (.error fault, { stream with scanner }) := by
  unfold peek peekM
  split
  · rfl
  · rw [Id.run_bind]
    change Id.run (match stream.scanner.scan with | _ => _) = _
    split <;> rfl

theorem pull_eq (stream : TokenStream ν) :
    stream.pull =
      if stream.finished then (none, stream)
      else
        match stream.next with
        | (.ok (.lexeme lexeme), stream) => (some (.ok lexeme), stream)
        | (.ok (.finish _ _), stream) => (none, { stream with finished := true })
        | (.error fault, stream) => (some (.error fault), { stream with finished := true }) := by
  unfold pull pullM
  split
  · rfl
  · rw [Id.run_bind]
    change Id.run (match stream.next with | _ => _) = _
    split <;> rfl

theorem size_next {stream : TokenStream ν} {lexeme : Lexeme}
    (h : stream.next.1 = .ok (.lexeme lexeme)) : stream.next.2.size < stream.size := by
  rw [next_eq] at h ⊢
  split at h
  · rename_i held hheld
    simp [size, hheld]
  · rename_i hheld
    simpa [size, hheld] using Scanner.size_scan_lt h

theorem size_peek (stream : TokenStream ν) : stream.peek.2.size ≤ stream.size := by
  rw [peek_eq]
  split
  · exact Nat.le_refl _
  · rename_i hheld
    split
    · rename_i lexeme scanner hscan
      have h := Scanner.size_scan_lt (congrArg Prod.fst hscan)
      rw [hscan] at h
      simpa [size, hheld, Nat.succ_le_iff] using h
    all_goals
      rename_i hscan
      have h := Scanner.size_scan_le stream.scanner
      rw [hscan] at h
      simpa [size, hheld] using h

theorem next_peek {stream : TokenStream ν} {lexeme : Lexeme}
    (h : stream.peek.1 = .ok (.lexeme lexeme)) : stream.peek.2.next.1 = .ok (.lexeme lexeme) := by
  rw [peek_eq] at h ⊢
  split at h
  · rename_i held hheld
    simp only [next_eq, hheld]
    exact h
  · split at h
    · exact h
    · cases h
    · cases h

instance : TokenSource (TokenStream ν) where
  next := next
  peek := peek
  size := size
  size_next := size_next
  size_peek := size_peek
  next_peek := next_peek

theorem size_pull {stream : TokenStream ν} {lexeme : Lexeme}
    (h : stream.pull.1 = some (.ok lexeme)) : stream.pull.2.size < stream.size := by
  rw [pull_eq] at h ⊢
  split at h
  · cases h
  · rename_i hopen
    rw [if_neg hopen]
    split at h
    · rename_i lexeme' after hnext
      have := size_next (congrArg Prod.fst hnext)
      rwa [hnext] at this
    · cases h
    · cases h

def pullAll (stream : TokenStream ν) : List Lexeme × Option LexFault × TokenStream ν :=
  match _h : stream.pull with
  | (some (.ok lexeme), after) =>
    let rest := pullAll after
    (lexeme :: rest.1, rest.2)
  | (some (.error fault), after) => ([], some fault, after)
  | (none, after) => ([], none, after)
termination_by stream.size
decreasing_by
  have := size_pull (congrArg Prod.fst _h)
  rwa [_h] at this

end TokenStream

end AssignLang
