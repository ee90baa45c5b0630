import Colloquy.Console.Session
import Colloquy.Main
import Colloquy.Proofs.Console.Session
import Colloquy.Proofs.Context.Json
import Colloquy.Proofs.Conversation.Course
import Colloquy.Proofs.Conversation.Handling
import Colloquy.Proofs.Conversation.History
import Colloquy.Proofs.Conversation.Interleaving
import Colloquy.Proofs.Conversation.Persistence
import Colloquy.Proofs.Conversation.Refusal
import Colloquy.Proofs.Conversation.Silence
import Colloquy.Proofs.Flow.Edits
import Colloquy.Proofs.Flow.Knowledge
import Colloquy.Proofs.Flow.Wire
import Colloquy.Proofs.Inspection.Completeness
import Colloquy.Proofs.Service.Answering
import Colloquy.Proofs.Service.Exchange
import Colloquy.Proofs.Template.Substitution
import Colloquy.Proofs.Turn.Answer
import Colloquy.Proofs.Turn.Body
import Colloquy.Proofs.Turn.Branch
import Colloquy.Proofs.Turn.Budget
import Colloquy.Proofs.Turn.CutShort
import Colloquy.Proofs.Turn.Decision
import Colloquy.Proofs.Turn.ErrorRoute
import Colloquy.Proofs.Turn.Halting
import Colloquy.Proofs.Turn.Headers
import Colloquy.Proofs.Turn.Persona
import Colloquy.Proofs.Turn.Writes
import Colloquy.Service.Completion
