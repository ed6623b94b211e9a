import Statik.Wire.Decoder

namespace Statik

open Wire

/-- The `io::ErrorKind`s the program raises or tells apart.  `other` stands for
every kind a socket may report beyond these. -/
inductive ErrorKind where
  | unexpectedEof
  | writeZero
  | other
  deriving DecidableEq, Repr

/-- An `anyhow::Error`: an I/O error or a message, under any number of attached
contexts.  `wrongStage` is a message too.  It is kept apart so that the handler
arms for a packet of another stage can be told from every other error. -/
inductive Error where
  | io (kind : ErrorKind)
  | msg (text : String)
  | wrongStage (text : String)
  | context (text : String) (source : Error)
  deriving DecidableEq, Repr

namespace Error

/-- `downcast_ref::<io::Error>()`, which looks through attached contexts. -/
def downcastIo : Error → Option ErrorKind
  | .io kind => some kind
  | .msg _ => none
  | .wrongStage _ => none
  | .context _ source => source.downcastIo

/-- The test by which callers recognise the end of the input. -/
def isUnexpectedEof (e : Error) : Bool := e.downcastIo == some .unexpectedEof

def isWrongStage : Error → Bool
  | .wrongStage _ => true
  | _ => false

end Error

/-- `.context(text)` on a result. -/
def withContext {α : Type} (text : String) : Except Error α → Except Error α
  | .ok a => .ok a
  | .error e => .error (.context text e)

/-- `.context(text)` on what a decoder returns. -/
def decodeContext {α : Type} (text : String) (d : Decoder Error α) : Decoder Error α :=
  fun b => withContext text (d b)

@[simp] theorem withContext_ok {α : Type} (text : String) (a : α) :
    withContext text (.ok a) = .ok a := rfl

/-- A context is added to a failure only. -/
theorem decodeContext_eq_ok {α : Type} {text : String} {d : Decoder Error α} {b : Bytes}
    {r : α × Bytes} : decodeContext text d b = .ok r ↔ d b = .ok r := by
  rw [decodeContext]
  cases d b with
  | ok r' => rw [withContext_ok]
  | error e => simp [withContext]

theorem reads_decodeContext {α : Type} {d : Decoder Error α} {used : Bytes} {a : α}
    (text : String) (h : Reads d used a) : Reads (decodeContext text d) used a := by
  intro rest
  show withContext text (d (used ++ rest)) = _
  rw [h rest, withContext_ok]

theorem readsAll_decodeContext {α : Type} {d : Decoder Error α} {used : Bytes} {a : α}
    (text : String) (h : ReadsAll d used a) : ReadsAll (decodeContext text d) used a := by
  show withContext text (d used) = _
  rw [h, withContext_ok]

theorem delimits_decodeContext {α : Type} {d : Decoder Error α} (text : String)
    (h : Delimits d) : Delimits (decodeContext text d) := by
  intro b rest a hdecode
  cases hd : d b with
  | error e =>
    rw [decodeContext, hd] at hdecode
    cases hdecode
  | ok r =>
    rw [decodeContext, hd, withContext_ok] at hdecode
    obtain rfl := Except.ok.inj hdecode
    obtain ⟨used, heq, hread⟩ := h b rest a hd
    exact ⟨used, heq, reads_decodeContext text hread⟩

/-- A failure that is not of a wrong-stage arm. -/
def Plain (e : Error) : Prop := e.isWrongStage = false

theorem fails_withContext {α : Type} (text : String) (r : Except Error α) :
    Fails Plain (withContext text r) := by
  cases r with
  | ok a => exact Fails.ok a
  | error e => exact Fails.error rfl

/-- A failure that is a message, under whatever contexts: no I/O error, and not of a
wrong-stage arm. -/
structure Textual (e : Error) : Prop where
  plain : Plain e
  noIo : e.downcastIo = none

theorem Textual.msg (text : String) : Textual (.msg text) := { plain := rfl, noIo := rfl }

theorem textual_withContext {α : Type} (text : String) {r : Except Error α}
    (h : Fails Textual r) : Fails Textual (withContext text r) := by
  cases r with
  | ok a => exact Fails.ok a
  | error e => exact Fails.error { plain := rfl, noIo := (h e rfl).noIo }

end Statik
