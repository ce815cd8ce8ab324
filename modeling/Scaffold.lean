import Scaffold.Event.Log
import Scaffold.Proofs.Output.Contract
import Scaffold.Proofs.Template.Rewriting
import Scaffold.Session
import Scaffold.Proofs.Template.Division
import Scaffold.Proofs.Recipe.Following
import Scaffold.Proofs.Toml.StringForms
import Scaffold.Proofs.Toml.WrittenLines
import Scaffold.Proofs.Settings.SavedDocument
import Scaffold.Proofs.FileTree.InPlace
import Scaffold.Proofs.Settings.Saving
import Scaffold.Proofs.FileTree.Children
import Scaffold.Proofs.Stub.Lookups
import Scaffold.Proofs.FileTree.Passing
import Scaffold.Proofs.Output.FirstWriter
import Scaffold.Proofs.Output.Visibility
import Scaffold.Proofs.Stub.Containment
import Scaffold.Proofs.Recipe.Repeating
import Scaffold.Proofs.Stub.Discovery
import Scaffold.Proofs.Output.Course
import Scaffold.Proofs.Output.Commuting
import Scaffold.Proofs.Template.Layout
import Scaffold.Proofs.Output.Verdict
import Scaffold.Proofs.Settings.Keys
import Scaffold.Proofs.Text.LowerCase
import Scaffold.Proofs.Settings.Variables
import Scaffold.Proofs.Settings.Loading
import Scaffold.Proofs.Template.Concatenation
import Scaffold.Proofs.Settings.ModeText
import Scaffold.Proofs.Template.Relevance
import Scaffold.Proofs.Naming.Words
import Scaffold.Proofs.Naming.Capitals
import Scaffold.Proofs.Naming.Recovery
import Scaffold.Proofs.FileTree.Silence
import Scaffold.Proofs.Recipe.Reporting
import Scaffold.Proofs.Template.Offsets
