import SealedKey.Oid.Basic

/-!
# Names of object identifiers

The registered names of algorithms, curves, attributes and message types, in
the order of their numbers.  A name belongs to the shortest encoding of the
numbers only.
-/

namespace SealedKey.Oid

/-- Object identifiers in dotted form, each with its name. -/
def registry : List (String × String) := [
  ("1.2.840.10040.4.1", "id-dsa"),
  ("1.2.840.10040.4.3", "dsa-with-sha1"),
  ("1.2.840.10045.2.1", "id-ecPublicKey"),
  ("1.2.840.10045.3.1.7", "secp256r1"),
  ("1.2.840.10045.4.3.1", "ecdsa-with-SHA224"),
  ("1.2.840.10045.4.3.2", "ecdsa-with-SHA256"),
  ("1.2.840.10045.4.3.3", "ecdsa-with-SHA384"),
  ("1.2.840.10045.4.3.4", "ecdsa-with-SHA512"),
  ("1.2.840.10046.2.1", "dhpublicnumber"),
  ("1.2.840.113533.7.66.13", "id-PasswordBasedMac"),
  ("1.2.840.113533.7.66.30", "id-DHBasedMac"),
  ("1.2.840.113549", "rsadsi"),
  ("1.2.840.113549.1.1", "pkcs-1"),
  ("1.2.840.113549.1.1.1", "rsaEncryption"),
  ("1.2.840.113549.1.1.2", "md2WithRSAEncryption"),
  ("1.2.840.113549.1.1.4", "md5WithRSAEncryption"),
  ("1.2.840.113549.1.1.5", "sha1WithRSAEncryption"),
  ("1.2.840.113549.1.1.7", "id-RSAES-OAEP"),
  ("1.2.840.113549.1.1.8", "id-mgf1"),
  ("1.2.840.113549.1.1.9", "id-pSpecified"),
  ("1.2.840.113549.1.1.10", "id-RSASSA-PSS"),
  ("1.2.840.113549.1.1.11", "sha256WithRSAEncryption"),
  ("1.2.840.113549.1.1.12", "sha384WithRSAEncryption"),
  ("1.2.840.113549.1.1.13", "sha512WithRSAEncryption"),
  ("1.2.840.113549.1.1.14", "sha224WithRSAEncryption"),
  ("1.2.840.113549.1.5.12", "id-PBKDF2"),
  ("1.2.840.113549.1.7.1", "id-data"),
  ("1.2.840.113549.1.7.2", "id-signedData"),
  ("1.2.840.113549.1.7.3", "id-envelopedData"),
  ("1.2.840.113549.1.7.5", "id-digestedData"),
  ("1.2.840.113549.1.7.6", "id-encryptedData"),
  ("1.2.840.113549.1.9", "pkcs-9"),
  ("1.2.840.113549.1.9.1", "email"),
  ("1.2.840.113549.1.9.2.51", "id-aa-multipleSignatures"),
  ("1.2.840.113549.1.9.3", "id-contentType"),
  ("1.2.840.113549.1.9.4", "id-messageDigest"),
  ("1.2.840.113549.1.9.5", "id-signingTime"),
  ("1.2.840.113549.1.9.6", "id-countersignature"),
  ("1.2.840.113549.1.9.14", "id-ExtensionReq"),
  ("1.2.840.113549.1.9.15", "smimeCapabilities"),
  ("1.2.840.113549.1.9.16", "id-smime"),
  ("1.2.840.113549.1.9.16.0", "id-mod"),
  ("1.2.840.113549.1.9.16.1", "id-ct"),
  ("1.2.840.113549.1.9.16.1.1", "id-ct-receipt"),
  ("1.2.840.113549.1.9.16.1.2", "id-ct-authData"),
  ("1.2.840.113549.1.9.16.1.6", "id-ct-contentInfo"),
  ("1.2.840.113549.1.9.16.1.9", "id-ct-compressedData"),
  ("1.2.840.113549.1.9.16.1.10", "id-ct-scvp-certValRequest"),
  ("1.2.840.113549.1.9.16.1.11", "id-ct-scvp-certValResponse"),
  ("1.2.840.113549.1.9.16.1.12", "id-ct-scvp-valPolRequest"),
  ("1.2.840.113549.1.9.16.1.13", "id-ct-scvp-valPolResponse"),
  ("1.2.840.113549.1.9.16.1.16", "id-ct-firmwarePackage"),
  ("1.2.840.113549.1.9.16.1.17", "id-ct-firmwareLoadReceipt"),
  ("1.2.840.113549.1.9.16.1.18", "id-ct-firmwareLoadError"),
  ("1.2.840.113549.1.9.16.1.19", "id-ct-contentCollection"),
  ("1.2.840.113549.1.9.16.1.20", "id-ct-contentWithAttrs"),
  ("1.2.840.113549.1.9.16.1.21", "id-ct-encKeyWithID"),
  ("1.2.840.113549.1.9.16.1.23", "id-ct-authEnvelopedData"),
  ("1.2.840.113549.1.9.16.2", "id-aa"),
  ("1.2.840.113549.1.9.16.2.1", "id-aa-receiptRequest"),
  ("1.2.840.113549.1.9.16.2.2", "id-aa-securityLabel"),
  ("1.2.840.113549.1.9.16.2.3", "id-aa-mlExpandHistory"),
  ("1.2.840.113549.1.9.16.2.4", "id-aa-contentHint"),
  ("1.2.840.113549.1.9.16.2.5", "id-aa-msgSigDigest"),
  ("1.2.840.113549.1.9.16.2.7", "id-aa-contentIdentifier"),
  ("1.2.840.113549.1.9.16.2.9", "id-aa-equivalentLabels"),
  ("1.2.840.113549.1.9.16.2.10", "id-aa-contentReference"),
  ("1.2.840.113549.1.9.16.2.11", "id-aa-encrypKeyPref"),
  ("1.2.840.113549.1.9.16.2.12", "id-aa-signingCertificate"),
  ("1.2.840.113549.1.9.16.2.34", "id-aa-cmc-unsignedData"),
  ("1.2.840.113549.1.9.16.2.35", "id-aa-firmwarePackageID"),
  ("1.2.840.113549.1.9.16.2.36", "id-aa-targetHardwareIDs"),
  ("1.2.840.113549.1.9.16.2.37", "id-aa-decryptKeyID"),
  ("1.2.840.113549.1.9.16.2.38", "id-aa-implCryptoAlgs"),
  ("1.2.840.113549.1.9.16.2.39", "id-aa-wrappedFirmwareKey"),
  ("1.2.840.113549.1.9.16.2.40", "id-aa-communityIdentifiers"),
  ("1.2.840.113549.1.9.16.2.42", "id-aa-firmwarePackageInfo"),
  ("1.2.840.113549.1.9.16.2.43", "id-aa-implCompressAlgs"),
  ("1.2.840.113549.1.9.16.2.46", "id-aa-binarySigningTime"),
  ("1.2.840.113549.1.9.16.2.47", "id-aa-signingCertificateV2"),
  ("1.2.840.113549.1.9.16.2.49", "id-aa-er-internal"),
  ("1.2.840.113549.1.9.16.2.50", "id-aa-er-external"),
  ("1.2.840.113549.1.9.16.3", "id-alg"),
  ("1.2.840.113549.1.9.16.3.5", "id-alg-ESDH"),
  ("1.2.840.113549.1.9.16.3.6", "id-alg-CMS3DESwrap"),
  ("1.2.840.113549.1.9.16.3.7", "id-alg-CMSRC2wrap"),
  ("1.2.840.113549.1.9.16.3.8", "id-alg-zlibCompress"),
  ("1.2.840.113549.1.9.16.3.10", "id-alg-SSDH"),
  ("1.2.840.113549.1.9.16.4", "id-cd"),
  ("1.2.840.113549.1.9.16.5", "id-spq"),
  ("1.2.840.113549.1.9.16.6", "id-cti"),
  ("1.2.840.113549.1.9.16.7", "id-tsp"),
  ("1.2.840.113549.1.9.16.8", "id-skd"),
  ("1.2.840.113549.1.9.16.8.1", "id-skd-glUseKEK"),
  ("1.2.840.113549.1.9.16.8.2", "id-skd-glDelete"),
  ("1.2.840.113549.1.9.16.8.3", "id-skd-glAddMember"),
  ("1.2.840.113549.1.9.16.8.4", "id-skd-glDeleteMember"),
  ("1.2.840.113549.1.9.16.8.5", "id-skd-glRekey"),
  ("1.2.840.113549.1.9.16.8.6", "id-skd-glAddOwner"),
  ("1.2.840.113549.1.9.16.8.7", "id-skd-glRemoveOwner"),
  ("1.2.840.113549.1.9.16.8.8", "id-skd-glKeyCompromise"),
  ("1.2.840.113549.1.9.16.8.9", "id-skd-glkRefresh"),
  ("1.2.840.113549.1.9.16.8.11", "id-skd-glaQueryRequest"),
  ("1.2.840.113549.1.9.16.8.12", "id-skd-glaQueryResponse"),
  ("1.2.840.113549.1.9.16.8.13", "id-skd-glProvideCert"),
  ("1.2.840.113549.1.9.16.8.14", "id-skd-glManageCert"),
  ("1.2.840.113549.1.9.16.8.15", "id-skd-glKey"),
  ("1.2.840.113549.1.9.16.9", "id-sti"),
  ("1.2.840.113549.1.9.16.10", "id-eit"),
  ("1.2.840.113549.1.9.16.11", "id-cap"),
  ("1.2.840.113549.1.9.16.11.1", "id-cap-preferBinaryInside"),
  ("1.2.840.113549.1.9.16.12", "id-pskc"),
  ("1.2.840.113549.2", "digestAlgorithm"),
  ("1.2.840.113549.2.2", "id-md2"),
  ("1.2.840.113549.2.5", "id-md5"),
  ("1.2.840.113549.2.8", "id-hmacWithSHA224"),
  ("1.2.840.113549.2.9", "id-hmacWithSHA256"),
  ("1.2.840.113549.2.10", "id-hmacWithSHA384"),
  ("1.2.840.113549.2.11", "id-hmacWithSHA512"),
  ("1.2.840.113549.3.2", "rc2-cbc"),
  ("1.2.840.113549.3.7", "des-ede3-cbc"),
  ("1.2.840.113556.1.4.478", "calCalURI"),
  ("1.2.840.113556.1.4.479", "calFBURL"),
  ("1.2.840.113556.1.4.480", "calCAPURI"),
  ("1.2.840.113556.1.4.481", "calCalAdrURI"),
  ("1.2.840.113556.1.4.482", "calOtherCalURIs"),
  ("1.2.840.113556.1.4.483", "calOtherFBURLs"),
  ("1.2.840.113556.1.4.484", "calOtherCAPURIs"),
  ("1.2.840.113556.1.4.485", "calOtherCalAdrURIs"),
  ("1.2.840.113556.1.5.87", "calEntry"),
  ("1.3.101.110", "id-X25519"),
  ("1.3.101.111", "id-X448"),
  ("1.3.101.112", "id-Ed25519"),
  ("1.3.101.113", "id-Ed448"),
  ("1.3.132.0.1", "sect163k1"),
  ("1.3.132.0.15", "sect163r2"),
  ("1.3.132.0.16", "sect283k1"),
  ("1.3.132.0.17", "sect283r1"),
  ("1.3.132.0.26", "sect233k1"),
  ("1.3.132.0.27", "sect233r1"),
  ("1.3.132.0.33", "secp224r1"),
  ("1.3.132.0.34", "secp384r1"),
  ("1.3.132.0.35", "secp521r1"),
  ("1.3.132.0.36", "sect409k1"),
  ("1.3.132.0.37", "sect409r1"),
  ("1.3.132.0.38", "sect571k1"),
  ("1.3.132.0.39", "sect571r1"),
  ("1.3.132.1.12", "id-ecDH"),
  ("1.3.132.1.13", "id-ecMQV"),
  ("2.5.4.0", "objectClass"),
  ("2.5.4.1", "aliasedObjectName"),
  ("2.5.4.2", "knowledgeInformation"),
  ("2.5.4.3", "cn"),
  ("2.5.4.4", "sn"),
  ("2.5.4.5", "serialNumber"),
  ("2.5.4.6", "c"),
  ("2.5.4.7", "L"),
  ("2.5.4.7.1", "c-l"),
  ("2.5.4.8", "stateOrProvinceName"),
  ("2.5.4.8.1", "c-st"),
  ("2.5.4.9", "streetAddress"),
  ("2.5.4.9.1", "c-street"),
  ("2.5.4.10", "o"),
  ("2.5.4.10.1", "c-o"),
  ("2.5.4.11", "ou"),
  ("2.5.4.11.1", "c-ou"),
  ("2.5.4.12", "title"),
  ("2.5.4.13", "description"),
  ("2.5.4.14", "searchGuide"),
  ("2.5.4.15", "businessCategory"),
  ("2.5.4.16", "postalAddress"),
  ("2.5.4.16.1", "c-PostalAddress"),
  ("2.5.4.17", "postalCode"),
  ("2.5.4.17.1", "c-PostalCode"),
  ("2.5.4.18", "postOfficeBox"),
  ("2.5.4.18.1", "c-PostOfficeBox"),
  ("2.5.4.19", "physicalDeliveryOfficeName"),
  ("2.5.4.19.1", "c-PhysicalDeliveryOffice"),
  ("2.5.4.20", "telephoneNumber"),
  ("2.5.4.20.1", "c-TelephoneNumber"),
  ("2.5.4.21", "telexNumber"),
  ("2.5.4.21.1", "c-TelexNumber"),
  ("2.5.4.22", "teletexTerminalIdentifier"),
  ("2.5.4.23", "facsimileTelephoneNumber"),
  ("2.5.4.23.1", "c-FacsimileTelephoneNumber"),
  ("2.5.4.24", "x121Address"),
  ("2.5.4.25", "internationaliSDNNumber"),
  ("2.5.4.25.1", "c-InternationalISDNNumber"),
  ("2.5.4.26", "registeredAddress"),
  ("2.5.4.27", "destinationIndicator"),
  ("2.5.4.28", "preferredDeliveryMethod"),
  ("2.5.4.29", "presentationAddress"),
  ("2.5.4.30", "supportedApplicationContext"),
  ("2.5.4.31", "member"),
  ("2.5.4.32", "owner"),
  ("2.5.4.33", "roleOccupant"),
  ("2.5.4.34", "seeAlso"),
  ("2.5.4.35", "userPassword"),
  ("2.5.4.36", "userCertificate"),
  ("2.5.4.37", "cACertificate"),
  ("2.5.4.38", "authorityRevocationList"),
  ("2.5.4.39", "certificateRevocationList"),
  ("2.5.4.40", "crossCertificatePair"),
  ("2.5.4.41", "name"),
  ("2.5.4.42", "givenName"),
  ("2.5.4.43", "initials"),
  ("2.5.4.44", "generationQualifier"),
  ("2.5.4.45", "x500UniqueIdentifier"),
  ("2.5.4.46", "dnQualifier"),
  ("2.5.4.47", "enhancedSearchGuide"),
  ("2.5.4.48", "protocolInformation"),
  ("2.5.4.49", "distinguishedName"),
  ("2.5.4.50", "uniqueMember"),
  ("2.5.4.51", "houseIdentifier"),
  ("2.5.4.52", "supportedAlgorithms"),
  ("2.5.4.53", "deltaRevocationList"),
  ("2.5.4.54", "dmdName"),
  ("2.5.4.65", "pseudonym"),
  ("2.5.4.72", "id-at-role"),
  ("2.16.840.1.101.3.4.1", "aes"),
  ("2.16.840.1.101.3.4.1.2", "id-aes128-CBC"),
  ("2.16.840.1.101.3.4.1.5", "id-aes128-wrap"),
  ("2.16.840.1.101.3.4.1.6", "id-aes128-GCM"),
  ("2.16.840.1.101.3.4.1.7", "id-aes128-CCM"),
  ("2.16.840.1.101.3.4.1.22", "id-aes192-CBC"),
  ("2.16.840.1.101.3.4.1.25", "id-aes192-wrap"),
  ("2.16.840.1.101.3.4.1.26", "id-aes192-GCM"),
  ("2.16.840.1.101.3.4.1.27", "id-aes192-CCM"),
  ("2.16.840.1.101.3.4.1.42", "id-aes256-CBC"),
  ("2.16.840.1.101.3.4.1.45", "id-aes256-wrap"),
  ("2.16.840.1.101.3.4.1.46", "id-aes256-GCM"),
  ("2.16.840.1.101.3.4.1.47", "id-aes256-CCM"),
  ("2.16.840.1.101.3.4.2.1", "id-sha256"),
  ("2.16.840.1.101.3.4.2.2", "id-sha384"),
  ("2.16.840.1.101.3.4.2.3", "id-sha512"),
  ("2.16.840.1.101.3.4.2.4", "id-sha224"),
  ("2.16.840.1.101.3.4.3.1", "dsa-with-sha224"),
  ("2.16.840.1.101.3.4.3.2", "dsa-with-sha256")]

/-- The registered name of an object identifier. -/
def name? (oid : Oid) : Option String :=
  (registry.find? fun (text, _) => ofText? text = some oid).map (·.2)

/-- The name followed by the numbers in parentheses, or the numbers alone. -/
def describe (oid : Oid) : String :=
  match oid.name? with
  | some name => s!"{name} ({oid})"
  | none => toString oid

end SealedKey.Oid
