import Boulder.Lib.Run
import Boulder.Lib.GoStrings
import Boulder.Lib.Loop
import Boulder.Lib.Rows
import Boulder.Lib.Paging
import Boulder.Lib.Regexp
import Boulder.Core.Objects
import Boulder.Core.Util
import Boulder.SA.Authz
import Boulder.SA.Certificates
import Boulder.SA.FQDNSets
import Boulder.Ratelimit
import Boulder.RA.Limits
import Boulder.RA.Authz
import Boulder.VA.CAA
import Boulder.Nonce
import Boulder.CDR.Resolver
import Boulder.OCSP.Updater
import Boulder.Jose
import Boulder.Goodkey
import Boulder.SA.Registrations
import Boulder.RA.Registration
import Boulder.WFE.VerifyPOST
import Boulder.WFE.Registration
import Boulder.WFE.Revoke
import Boulder.CSR
import Boulder.RA.NewCertificate
import Boulder.Lib.GoNet
import Boulder.BDNS
import Boulder.CA
import Boulder.GRPC
import Boulder.Policy
import Boulder.Lib.SQL
import Boulder.SA.IssuedNames
import Boulder.Cmd.BatchReads
import Boulder.Cmd.ExpirationMailer
import Boulder.Cmd.OrphanFinder
import Boulder.Lib.Base64
import Boulder.Nonce.Codec
import Boulder.GRPC.PBMarshalling
import Boulder.OCSP.Purge
import Boulder.Lib.Lines
import Boulder.Lib.GoTime
import Boulder.Mail.Mailer
import Boulder.Core.Challenges
import Boulder.RA.Validation
import Boulder.WFE.Authz
import Boulder.WFE.AuthzSafety
import Boulder.WFE.AuthzGuarantees
import Boulder.WFE.Frontend
