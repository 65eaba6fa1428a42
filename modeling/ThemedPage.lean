import ThemedPage.Mode.Reading
import ThemedPage.Page.Reading
import ThemedPage.Proofs.AuditTrail
import ThemedPage.Proofs.BlankTexts
import ThemedPage.Proofs.Captures
import ThemedPage.Proofs.ClassLists
import ThemedPage.Proofs.Filling
import ThemedPage.Proofs.Freshness
import ThemedPage.Proofs.History
import ThemedPage.Proofs.Independence
import ThemedPage.Proofs.LateImages
import ThemedPage.Proofs.ModeChanges
import ThemedPage.Proofs.Passes
import ThemedPage.Proofs.Placeholders
import ThemedPage.Proofs.Restart
import ThemedPage.Proofs.Scheduling
import ThemedPage.Proofs.Seats
import ThemedPage.Proofs.TableRows
import ThemedPage.Proofs.Templates
import ThemedPage.Proofs.Variants
import ThemedPage.Proofs.WrittenSettings
import ThemedPage.Settings.Reading
import ThemedPage.Synchronizer
