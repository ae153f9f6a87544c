import BloodStakes.Amount
import BloodStakes.Assets
import BloodStakes.Card
import BloodStakes.Catalog
import BloodStakes.Catalog.Validation
import BloodStakes.Deck
import BloodStakes.Effect.Action
import BloodStakes.Effect.Bundle
import BloodStakes.Effect.Kind
import BloodStakes.Effect.Log
import BloodStakes.Event
import BloodStakes.Face
import BloodStakes.Json.Decimal
import BloodStakes.Json.Decode
import BloodStakes.Json.Reader
import BloodStakes.Json.Value
import BloodStakes.Keyword
import BloodStakes.Loadout
import BloodStakes.Move
import BloodStakes.Proofs.Agreement
import BloodStakes.Proofs.Alive
import BloodStakes.Proofs.Bleeding
import BloodStakes.Proofs.Books
import BloodStakes.Proofs.Bounds
import BloodStakes.Proofs.Chance
import BloodStakes.Proofs.Commits
import BloodStakes.Proofs.Conservation
import BloodStakes.Proofs.Counting
import BloodStakes.Proofs.Dealing
import BloodStakes.Proofs.Decks
import BloodStakes.Proofs.Encounters
import BloodStakes.Proofs.Endings
import BloodStakes.Proofs.Equipping
import BloodStakes.Proofs.Faults
import BloodStakes.Proofs.Firing
import BloodStakes.Proofs.Framing
import BloodStakes.Proofs.Granting
import BloodStakes.Proofs.Ledger
import BloodStakes.Proofs.Moments
import BloodStakes.Proofs.Nesting
import BloodStakes.Proofs.NewRound
import BloodStakes.Proofs.Offers
import BloodStakes.Proofs.PartialSums
import BloodStakes.Proofs.Payouts
import BloodStakes.Proofs.Playing
import BloodStakes.Proofs.Pots
import BloodStakes.Proofs.Printed
import BloodStakes.Proofs.Progress
import BloodStakes.Proofs.Rack
import BloodStakes.Proofs.Reads
import BloodStakes.Proofs.Records
import BloodStakes.Proofs.Refusals
import BloodStakes.Proofs.Rows
import BloodStakes.Proofs.Run
import BloodStakes.Proofs.Sampling
import BloodStakes.Proofs.Scoring
import BloodStakes.Proofs.Seeding
import BloodStakes.Proofs.Settling
import BloodStakes.Proofs.Slots
import BloodStakes.Proofs.Stakes
import BloodStakes.Proofs.Standing
import BloodStakes.Proofs.Story
import BloodStakes.Proofs.Success
import BloodStakes.Proofs.Tracking
import BloodStakes.Proofs.Transaction
import BloodStakes.Proofs.Transition
import BloodStakes.Proofs.Tutorial
import BloodStakes.Proofs.Upcoming
import BloodStakes.Proofs.Updating
import BloodStakes.Proofs.Upsetting
import BloodStakes.Proofs.Wagers
import BloodStakes.Proofs.Weighing
import BloodStakes.Proofs.Width
import BloodStakes.Proofs.Working
import BloodStakes.Proofs.ZeroSum
import BloodStakes.Random.ChaCha
import BloodStakes.Random.Rng
import BloodStakes.Record.Effect
import BloodStakes.Record.Event
import BloodStakes.Record.House
import BloodStakes.Record.Table
import BloodStakes.Rules
import BloodStakes.Sample.SumTree
import BloodStakes.Sample.Urn
import BloodStakes.Sample.Weighting
import BloodStakes.Score
import BloodStakes.Service
import BloodStakes.Session.Basic
import BloodStakes.Session.Belongings
import BloodStakes.Session.Blood
import BloodStakes.Session.Effects
import BloodStakes.Session.Moves
import BloodStakes.Session.Opening
import BloodStakes.Session.Play
import BloodStakes.Session.Settlement
import BloodStakes.Session.Shoe
import BloodStakes.Store.Basic
import BloodStakes.Store.Change
import BloodStakes.Table.Basic
import BloodStakes.Table.Game
import BloodStakes.Table.Hand
import BloodStakes.Table.Player
import BloodStakes.Table.Round
import BloodStakes.Table.Violation
import BloodStakes.Text.Quoted
import BloodStakes.Text.Visible
