import CheckedText.Main
import CheckedText.Proofs.UsableFormat
import CheckedText.Proofs.SeparatedGroups
import CheckedText.Proofs.OutputModes
import CheckedText.Proofs.ChecksumDigits
import CheckedText.Proofs.DecodedText
import CheckedText.Proofs.FlippedBits
import CheckedText.Proofs.ChecksumBlocks
import CheckedText.Proofs.MistypedSymbol
import CheckedText.Proofs.RoundTrip
import CheckedText.Proofs.IdentifierFaults
import CheckedText.Proofs.KeptGroups
import CheckedText.Proofs.FormatSettings
import CheckedText.Proofs.Installation
import CheckedText.Proofs.ColourSwitch
import CheckedText.Proofs.OpenedConfig
import CheckedText.Proofs.ShortRegister
