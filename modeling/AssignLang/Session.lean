import AssignLang.Program.Statement
import AssignLang.Token.Stream

namespace AssignLang

structure Session where
  store : Store
  diagnostics : List Diagnostic
deriving Inhabited

namespace Session

def new : Session := ⟨.empty, []⟩

def clear (session : Session) : Session := { session with store := .empty, diagnostics := [] }

section

variable {σ : Type} [TokenSource σ]

/-- Asks for the next statement at most `n` times, with a budget of `limit` each time, and executes
what there is. Gives no answer if that is not enough to reach the end or a failure. -/
def executeWithin (limit : Nat) : Nat → Session → σ → Option (Session × σ)
  | 0, _, _ => none
  | n + 1, session, source =>
    match nextStatementWithin session.store limit source with
    | some (.ok (some assignment), after) =>
      executeWithin limit n { session with store := session.store.assign assignment } after
    | some (.ok none, after) => some (session, after)
    | some (.error diagnostic, after) =>
      some ({ session with diagnostics := session.diagnostics ++ [diagnostic] }, after)
    | none => none

theorem isSome_executeWithin (session : Session) {source : σ} {limit n : Nat}
    (budgeted : budget source ≤ limit) (enough : TokenSource.size source < n) :
    (executeWithin limit n session source).isSome = true := by
  induction n generalizing session source with
  | zero => omega
  | succ n ih =>
    unfold executeWithin
    rw [nextStatementWithin_eq session.store budgeted]
    split
    · rename_i assignment after eq
      have same : nextStatement session.store source = (.ok (some assignment), after) :=
        Option.some.inj eq
      have less : TokenSource.size after < TokenSource.size source := by
        have := size_nextStatement (congrArg Prod.fst same)
        rwa [same] at this
      apply ih
      · unfold budget at budgeted ⊢
        omega
      · omega
    · rfl
    · rfl
    · rename_i eq
      cases eq

/-- Goes on with the program of a source, from the store of the session, and gives the source as
the run left it. -/
def proceed (session : Session) (source : σ) : Session × σ :=
  (executeWithin (budget source) (TokenSource.size source + 1) session source).get
    (isSome_executeWithin _ (Nat.le_refl _) (Nat.lt_succ_self _))

def execute (session : Session) (source : σ) : Session × σ :=
  session.clear.proceed source

end

def run (session : Session) (text : String) : Session :=
  (session.execute (TokenStream.ofString text)).1

def runChars (session : Session) (chars : List Char) : Session :=
  (session.execute (TokenStream.ofChars chars)).1

def succeeded (session : Session) : Bool := session.diagnostics.isEmpty

def messages (session : Session) : List String := session.diagnostics.map (·.message)

end Session

def run (text : String) : Session := Session.new.run text

inductive Report where
  | bindings (pairs : List (String × Value))
  | error
deriving DecidableEq, Repr

def Report.text : Report → String
  | bindings pairs => String.join (pairs.map fun pair => s!"{pair.1} = {pair.2.text}\n")
  | error => "error\n"

def Session.report (session : Session) : Report :=
  if session.succeeded then .bindings session.store.toList else .error

end AssignLang
