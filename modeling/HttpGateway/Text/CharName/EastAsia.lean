namespace HttpGateway.Text.CharName

def eastAsianNames : List (Nat × List String) := [
  (11264, [
    "aGLAGOLITIC CAPITAL LETTER AZUdBUKYdVEDEdGLAGOLIdDOBROdYESTUdZHIVETEdDZELOdZEMLJAdIZHE",
    "dINITIAL:1dIdDJERVIdKAKOdLJUDIJEdMYSLITEdNASHIdONUdPOKOJIdRITSIdSLOVOdTVRIDOdUKUdFRITUdHERU",
    "dOTUdPEdSHTAdTSIdCHRIVIdSHAdYERUdYERIdYATIdSPIDERY HAdYUdSMALL YUSfWITH TAILdYO",
    "dIOTATED SMALL YUSdBIG:1dIOTATED:2dFITAdIZHITSAdSHTAPICdTROKUTASTI AdLATINATE MYSLITE",
    "dCAUDATE CHRIVIbSMALL LETTER AZUdBUKYdVEDEdGLAGOLIdDOBROdYESTUdZHIVETEdDZELOdZEMLJAdIZHE",
    "dINITIAL:1dIdDJERVIdKAKOdLJUDIJEdMYSLITEdNASHIdONUdPOKOJIdRITSIdSLOVOdTVRIDOdUKUdFRITUdHERU",
    "dOTUdPEdSHTAdTSIdCHRIVIdSHAdYERUdYERIdYATIdSPIDERY HAdYUdSMALL YUSfWITH TAILdYO",
    "dIOTATED SMALL YUSdBIG:1dIOTATED:2dFITAdIZHITSAdSHTAPICdTROKUTASTI AdLATINATE MYSLITE",
    "dCAUDATE CHRIVIaLATIN CAPITAL LETTER L WITH DOUBLE BARbSMALL:5",
    "bCAPITAL LETTER L WITH MIDDLE TILDEdP WITH STROKEdR WITH TAILbSMALL LETTER A WITH STROKE",
    "dT WITH DIAGONAL:1bCAPITAL LETTER H WITH DESCENDERbSMALL:4bCAPITAL LETTER K:2bSMALL:4",
    "bCAPITAL LETTER Z:2bSMALL:4bCAPITAL LETTER ALPHAdM WITH HOOKdTURNED AeALPHA",
    "bSMALL LETTER V WITH RIGHT HOOKbCAPITAL LETTER W WITH:1bSMALL:4dV WITH CURL",
    "bCAPITAL LETTER HALF HbSMALL:3dTAILLESS PHIdE WITH NOTCHdTURNED R WITH TAIL",
    "dO WITH LOW RING INSIDEbLETTER SMALL CAPITAL TURNED EbSUBSCRIPT SMALL LETTER J",
    "aMODIFIER LETTER CAPITAL VaLATIN CAPITAL LETTER S WITH SWASH TAILdZ:3",
    "aCOPTIC CAPITAL LETTER ALFAbSMALL:2bCAPITAL LETTER VIDAbSMALL:2bCAPITAL LETTER GAMMA",
    "bSMALL:2bCAPITAL LETTER DALDAbSMALL:2bCAPITAL LETTER EIEbSMALL:2bCAPITAL LETTER SOUbSMALL:2",
    "bCAPITAL LETTER ZATAbSMALL:2bCAPITAL LETTER HATEbSMALL:2bCAPITAL LETTER THETHEbSMALL:2",
    "bCAPITAL LETTER IAUDAbSMALL:2bCAPITAL LETTER KAPAbSMALL:2bCAPITAL LETTER LAULAbSMALL:2",
    "bCAPITAL LETTER MIbSMALL:2bCAPITAL LETTER NIbSMALL:2bCAPITAL LETTER KSIbSMALL:2",
    "bCAPITAL LETTER ObSMALL:2bCAPITAL LETTER PIbSMALL:2bCAPITAL LETTER RObSMALL:2",
    "bCAPITAL LETTER SIMAbSMALL:2bCAPITAL LETTER TAUbSMALL:2bCAPITAL LETTER UAbSMALL:2",
    "bCAPITAL LETTER FIbSMALL:2bCAPITAL LETTER KHIbSMALL:2bCAPITAL LETTER PSIbSMALL:2",
    "bCAPITAL LETTER OOUbSMALL:2bCAPITAL LETTER DIALECT-P ALEFbSMALL:3",
    "bCAPITAL LETTER OLD COPTIC AINbSMALL:4bCAPITAL LETTER CRYPTOGRAMMIC EIEbSMALL:3",
    "bCAPITAL LETTER DIALECT-P KAPAbSMALL:3bCAPITAL LETTER DIALECT-P NIbSMALL:3",
    "bCAPITAL LETTER CRYPTOGRAMMIC:1bSMALL:3bCAPITAL LETTER OLD COPTIC OOUbSMALL:4",
    "bCAPITAL LETTER SAMPIbSMALL:2bCAPITAL LETTER CROSSED SHEIbSMALL:3",
    "bCAPITAL LETTER OLD COPTIC:1bSMALL:4bCAPITAL LETTER OLD COPTIC ESHbSMALL:4",
    "bCAPITAL LETTER AKHMIMIC KHEIbSMALL:3bCAPITAL LETTER DIALECT-P HORIbSMALL:3",
    "bCAPITAL LETTER OLD COPTIC:1bSMALL:4bCAPITAL LETTER OLD COPTIC HAbSMALL:4",
    "bCAPITAL LETTER L-SHAPED:1bSMALL:3bCAPITAL LETTER OLD COPTIC HEIbSMALL:4",
    "bCAPITAL LETTER OLD COPTIC HATbSMALL:4bCAPITAL LETTER OLD COPTIC GANGIAbSMALL:4",
    "bCAPITAL LETTER OLD COPTIC DJAbSMALL:4bCAPITAL LETTER OLD COPTIC SHIMAbSMALL:4",
    "bCAPITAL LETTER OLD NUBIAN:1bSMALL:4bCAPITAL LETTER OLD NUBIAN NGIbSMALL:4",
    "bCAPITAL LETTER OLD NUBIAN NYIbSMALL:4bCAPITAL LETTER OLD NUBIAN WAUbSMALL:4bSYMBOL KAI",
    "cMI ROcPI:1cSTAUROScTAU ROcKHI:1cSHIMA SIMAbCAPITAL LETTER CRYPTOGRAMMIC SHEIbSMALL:3",
    "bCAPITAL LETTER CRYPTOGRAMMIC GANGIAbSMALL:3bCOMBINING NI ABOVEcSPIRITUS ASPERdLENIS",
    "bCAPITAL LETTER BOHAIRIC KHEIbSMALL:3.....bOLD NUBIAN FULL STOPdDIRECT QUESTION MARK",
    "dINDIRECT:2dVERSE DIVIDERbFRACTION ONE HALFbFULL STOPbMORPHOLOGICAL DIVIDER",
    "aGEORGIAN SMALL LETTER ANdBANdGANdDONdENdVINdZENdTANdINdKANdLASdMANdNARdONdPARdZHARdRAEdSAN",
    "dTARdUNdPHARdKHARdGHANdQARdSHINdCHINdCANdJILdCILdCHARdXANdJHANdHAEdHEdHIEdWEdHARdHOE.dYN...",
    "..dAEN..aTIFINAGH LETTER YAcYABcYABHcYAGcYAGHHcBERBER ACADEMY YAJc:1cYADcYADHcYADDcYADDH",
    "cYEYcYAFcYAKcTUAREG:1cYAKHHcYAHcBERBER ACADEMY:1cTUAREG:1cYAHHcYAAcYAKHcTUAREG:1cYAQ",
    "cTUAREG:1cYIcYAZHcAHAGGAR:1cTUAREG:1cYALcYAMcYANcTUAREG YAGNdYANGcYAPcYUcYARcYARRcYAGH",
    "cTUAREG:1cAYER:1cYAScYASScYASHcYATcYATHcYACHcYATTcYAVcYAWcYAYcYAZcTAWELLEMET:1cYAZZcYEcYO..",
    ".....bMODIFIER LETTER LABIALIZATION MARKbSEPARATOR:1..............bCONSONANT JOINER",
    "aETHIOPIC SYLLABLE LOAcMOAcROAcSOAcSHOAcBOAcTOAcCOAcNOAcNYOAcGLOTTAL OAcZOAcDOAcDDOAcJOA",
    "cTHOAcCHOAcPHOAcPOAcGGWAcGGWIcGGWEEcGGWE.........cSSAcSSUcSSIcSSAAcSSEEcSSEcSSO.cCCAcCCU",
    "cCCIcCCAAcCCEEcCCEcCCO.cZZAcZZUcZZIcZZAAcZZEEcZZEcZZO.cCCHAcCCHUcCCHIcCCHAAcCCHEEcCCHEcCCHO",
    ".cQYAcQYUcQYIcQYAAcQYEEcQYEcQYO.cKYAcKYUcKYIcKYAAcKYEEcKYEcKYO.cXYAcXYUcXYIcXYAAcXYEEcXYE",
    "cXYO.cGYAcGYUcGYIcGYAAcGYEEcGYEcGYO.aCOMBINING CYRILLIC LETTER BEdVEdGHEdDEdZHEdZEdKAdELdEM",
    "dENdOdPEdERdESdTEdHAdTSEdCHEdSHAdSHCHAdFITAdES-TEdAdIEdDJERVdMONOGRAPH UKdYATdYUdIOTIFIED A",
    "dLITTLE YUSdBIG:1dIOTIFIED:2aRIGHT ANGLE SUBSTITUTION MARKERcDOTTED:2",
    "aLEFT SUBSTITUTION BRACKETaRIGHT:2aLEFT DOTTED:2aRIGHT:3aRAISED INTERPOLATION MARKER",
    "bDOTTED:2aDOTTED TRANSPOSITION:1aLEFT TRANSPOSITION BRACKETaRIGHT:2aRAISED SQUARE",
    "aLEFT RAISED OMISSION BRACKETaRIGHT:3aEDITORIAL CORONISaPARAGRAPHOSaFORKED:1aREVERSED:2",
    "aHYPODIASTOLEaDOTTED OBELOSaDOWNWARDS ANCORAaUPWARDS:1aDOTTED RIGHT-POINTING ANGLE",
    "aDOUBLE OBLIQUE HYPHENaINVERTED INTERROBANGaPALM BRANCHaHYPHEN WITH DIAERESIS",
    "aTILDE WITH RING ABOVEaLEFT LOW PARAPHRASE BRACKETaRIGHT:3aTILDE WITH DOT ABOVEdBELOW",
    "aLEFT VERTICAL BAR WITH QUILLaRIGHT:4aTOP LEFT HALF BRACKETbRIGHT:2aBOTTOM LEFT:2bRIGHT:2",
    "aLEFT SIDEWAYS U:1aRIGHT:3aLEFT DOUBLE PARENTHESISaRIGHT:2",
    "aTWO DOTS OVER ONE DOT PUNCTUATIONaONE DOT OVER TWO DOTS:1aSQUARED FOUR DOT:1aFIVE DOT MARK",
    "aREVERSED QUESTION:1aVERTICAL TILDEaRING POINTaWORD SEPARATOR MIDDLE DOTaTURNED COMMA",
    "aRAISED DOTbCOMMAaTURNED SEMICOLONaDAGGER WITH LEFT GUARDcRIGHT:1aTURNED DAGGER",
    "aTOP HALF SECTION SIGNaTWO-EM DASHaTHREE-EM:1aSTENOGRAPHIC FULL STOPaVERTICAL SIX DOTS",
    "aWIGGLY VERTICAL LINEaCAPITULUMaDOUBLE HYPHENaREVERSED COMMA",
    "aDOUBLE LOW-REVERSED-9 QUOTATION MARKaDASH WITH LEFT UPTURNaDOUBLE SUSPENSION MARK",
    "aINVERTED LOW KAVYKAdWITH KAVYKA ABOVEaLOW KAVYKAcWITH DOTaDOUBLE STACKED COMMA",
    "aDOTTED SOLIDUSaTRIPLE DAGGERaMEDIEVAL COMMAaPARAGRAPHUS MARKaPUNCTUS ELEVATUS:1",
    "aCORNISH VERSE DIVIDERaCROSS PATTY WITH RIGHT CROSSBARdLEFT:1aTIRONIAN SIGN CAPITAL ET",
    "aMEDIEVAL EXCLAMATION MARKbQUESTION:1aLEFT SQUARE BRACKET WITH STROKEaRIGHT:4",
    "aLEFT SQUARE BRACKET WITH DOUBLE:1aRIGHT:5aTOP HALF LEFT PARENTHESIScRIGHT:1",
    "aBOTTOM HALF LEFT:1cRIGHT:1aOBLIQUE HYPHEN..................................",
    "aCJK RADICAL REPEATcCLIFFcSECOND ONEdTWOdTHREEcPERSONcBOXcTABLEcKNIFE ONEdTWOcDIVINATION",
    "cSEALcSMALL ONEdTWOcLAME ONEdTWOdTHREEdFOURcSNAKEcTHREADcSNOUT ONEdTWOcHEART ONEdTWOcHAND",
    "cRAP.cCHOKEcSUNcMOONcDEATHcMOTHERcCIVILIANcWATER ONEdTWOcFIREcPAW ONEdTWO",
    "cSIMPLIFIED HALF TREE TRUNKcCOWcDOGcJADEcBOLT OF CLOTHcEYEcSPIRIT ONEdTWOcBAMBOOcSILK",
    "cC-SIMPLIFIED:1cNET ONEdTWOdTHREEdFOURcMESHcSHEEPcRAMcEWEcOLDcBRUSH ONEdTWOcMEATcMORTAR",
    "cGRASS ONEdTWOdTHREEcTIGERcCLOTHEScWEST ONEdTWOcC-SIMPLIFIED SEEcSIMPLIFIED HORNc:1",
    "cC-SIMPLIFIED SPEECHdSHELLcFOOTcC-SIMPLIFIED CARTcSIMPLIFIED WALKcWALK ONEdTWOcCITY",
    "cC-SIMPLIFIED GOLDcLONG ONEdTWOcC-SIMPLIFIED LONGdGATEcMOUND ONEdTWOcRAINcBLUE",
    "cC-SIMPLIFIED TANNED LEATHERdLEAFdWINDdFLYcEAT ONEdTWOdTHREEcC-SIMPLIFIED EATcHEAD",
    "cC-SIMPLIFIED HORSEcBONEcGHOSTcC-SIMPLIFIED FISHdBIRDdSALTcSIMPLIFIED WHEATdYELLOW",
    "cC-SIMPLIFIED FROGcJ-SIMPLIFIED EVENcC-SIMPLIFIED:1cJ-SIMPLIFIED TOOTHcC-SIMPLIFIED:1",
    "cJ-SIMPLIFIED DRAGONcC-SIMPLIFIED:1cTURTLEcJ-SIMPLIFIED:1cC-SIMPLIFIED:1............",
    "aKANGXI RADICAL ONEcLINEcDOTcSLASHcSECONDcHOOKcTWOcLIDcMANcLEGScENTERcEIGHTcDOWN BOXcCOVER",
    "cICEcTABLEcOPEN BOXcKNIFEcPOWERcWRAPcSPOONcRIGHT OPEN BOXcHIDING ENCLOSUREcTENcDIVINATION",
    "cSEALcCLIFFcPRIVATEcAGAINcMOUTHcENCLOSUREcEARTHcSCHOLARcGOdSLOWLYcEVENINGcBIGcWOMANcCHILD",
    "cROOFcINCHcSMALLcLAMEcCORPSEcSPROUTcMOUNTAINcRIVERcWORKcONESELFcTURBANcDRYcSHORT THREAD",
    "cDOTTED CLIFFcLONG STRIDEcTWO HANDScSHOOTcBOWcSNOUTcBRISTLEcSTEPcHEARTcHALBERDcDOORcHAND",
    "cBRANCHcRAPcSCRIPTcDIPPERcAXEcSQUAREcNOTcSUNcSAYcMOONcTREEcLACKcSTOPcDEATHcWEAPONcDO NOT",
    "cCOMPAREcFURcCLANcSTEAMcWATERcFIREcCLAWcFATHERcDOUBLE XcHALF TREE TRUNKcSLICEcFANGcCOWcDOG",
    "cPROFOUNDcJADEcMELONcTILEcSWEETcLIFEcUSEcFIELDcBOLT OF CLOTHcSICKNESScDOTTED TENTcWHITE",
    "cSKINcDISHcEYEcSPEARcARROWcSTONEcSPIRITcTRACKcGRAINcCAVEcSTANDcBAMBOOcRICEcSILKcJARcNET",
    "cSHEEPcFEATHERcOLDcANDcPLOWcEARcBRUSHcMEATcMINISTERcSELFcARRIVEcMORTARcTONGUEcOPPOSEcBOAT",
    "cSTOPPINGcCOLORcGRASScTIGERcINSECTcBLOODcWALK ENCLOSUREcCLOTHEScWESTcSEEcHORNcSPEECHcVALLEY",
    "cBEANcPIGcBADGERcSHELLcREDcRUNcFOOTcBODYcCARTcBITTERcMORNINGcWALKcCITYcWINEcDISTINGUISH",
    "cVILLAGEcGOLDcLONGcGATEcMOUNDcSLAVEcSHORT TAILED BIRDcRAINcBLUEcWRONGcFACEcLEATHERcTANNED:1",
    "cLEEKcSOUNDcLEAFcWINDcFLYcEATcHEADcFRAGRANTcHORSEcBONEcTALLcHAIRcFIGHTcSACRIFICIAL WINE",
    "cCAULDRONcGHOSTcFISHcBIRDcSALTcDEERcWHEATcHEMPcYELLOWcMILLETcBLACKcEMBROIDERYcFROGcTRIPOD",
    "cDRUMcRATcNOSEcEVENcTOOTHcDRAGONcTURTLEcFLUTE..........................",
    "aIDEOGRAPHIC DESCRIPTION CHARACTER LEFT TO RIGHTdABOVE TO BELOWdLEFT TO MIDDLE AND RIGHT",
    "dABOVE TO MIDDLE AND BELOWdFULL SURROUNDdSURROUND FROM ABOVEfBELOWfLEFTfUPPER:1gRIGHT",
    "fLOWER LEFTdOVERLAID....bSPACEbCOMMAbFULL STOPaDITTO MARK",
    "aJAPANESE INDUSTRIAL STANDARD SYMBOLaIDEOGRAPHIC ITERATION MARKbCLOSING:1bNUMBER ZERO",
    "aLEFT ANGLE BRACKETaRIGHT:2aLEFT DOUBLE:2aRIGHT:3aLEFT CORNER:1aRIGHT:2aLEFT WHITE:2",
    "aRIGHT:3aLEFT BLACK LENTICULAR:1aRIGHT:3aPOSTAL MARKaGETA:1aLEFT TORTOISE SHELL BRACKET",
    "aRIGHT:3aLEFT WHITE LENTICULAR:1aRIGHT:3aLEFT WHITE TORTOISE SHELL:1aRIGHT:4",
    "aLEFT WHITE SQUARE:1aRIGHT:3aWAVE DASHaREVERSED DOUBLE PRIME QUOTATION MARKa:4aLOW:4",
    "aPOSTAL MARK FACEaHANGZHOU NUMERAL ONEcTWOcTHREEcFOURcFIVEcSIXcSEVENcEIGHTcNINE",
    "aIDEOGRAPHIC LEVEL TONE MARKbRISING:2bDEPARTING:2bENTERING:2aHANGUL SINGLE DOT:2bDOUBLE:3",
    "aWAVY DASHaVERTICAL KANA REPEAT MARKdWITH VOICED SOUND:1dMARK UPPER HALF",
    "dWITH VOICED SOUND:3dMARK LOWER:1aCIRCLED POSTAL MARK",
    "aIDEOGRAPHIC TELEGRAPH LINE FEED SEPARATOR SYMBOLaHANGZHOU NUMERAL TENcTWENTYcTHIRTY",
    "aVERTICAL IDEOGRAPHIC ITERATION MARKaMASU:1aPART ALTERNATION:1",
    "aIDEOGRAPHIC VARIATION INDICATORbHALF FILL SPACE.aHIRAGANA LETTER SMALL AcAcSMALL IcI",
    "cSMALL UcUcSMALL EcEcSMALL OcOcKAcGAcKIcGIcKUcGUcKEcGEcKOcGOcSAcZAcSIcZIcSUcZUcSEcZEcSOcZO",
    "cTAcDAcTIcDIcSMALL TUcTUcDUcTEcDEcTOcDOcNAcNIcNUcNEcNOcHAcBAcPAcHIcBIcPIcHUcBUcPUcHEcBEcPE",
    "cHOcBOcPOcMAcMIcMUcMEcMOcSMALL YAcYAcSMALL YUcYUcSMALL YOcYOcRAcRIcRUcREcROcSMALL WAcWAcWI",
    "cWEcWOcNcVUcSMALL KAdKE..aCOMBINING KATAKANA-HIRAGANA VOICED SOUND MARKcSEMI-VOICED:2",
    "aKATAKANA-HIRAGANA VOICED:2bSEMI-VOICED:2aHIRAGANA ITERATION:1bVOICED:2bDIGRAPH YORI",
    "aKATAKANA-HIRAGANA DOUBLE HYPHENaKATAKANA LETTER SMALL AcAcSMALL IcIcSMALL UcUcSMALL EcE",
    "cSMALL OcOcKAcGAcKIcGIcKUcGUcKEcGEcKOcGOcSAcZAcSIcZIcSUcZUcSEcZEcSOcZOcTAcDAcTIcDIcSMALL TU",
    "cTUcDUcTEcDEcTOcDOcNAcNIcNUcNEcNOcHAcBAcPAcHIcBIcPIcHUcBUcPUcHEcBEcPEcHOcBOcPOcMAcMIcMUcME",
    "cMOcSMALL YAcYAcSMALL YUcYUcSMALL YOcYOcRAcRIcRUcREcROcSMALL WAcWAcWIcWEcWOcNcVUcSMALL KA",
    "dKEcVAcVIcVEcVObMIDDLE DOTaKATAKANA-HIRAGANA PROLONGED SOUND MARKaKATAKANA ITERATION:1",
    "bVOICED:2bDIGRAPH KOTO.....aBOPOMOFO LETTER BcPcMcFcDcTcNcLcGcKcHcJcQcXcZHcCHcSHcRcZcCcScA",
    "cOcEcEHcAIcEIcAUcOUcANcENcANGcENGcERcIcUcIUcVcNGcGNcIHcO WITH DOT ABOVEcNN.",
    "aHANGUL LETTER KIYEOKcSSANGKIYEOKcKIYEOK-SIOScNIEUNcNIEUN-CIEUCcNIEUN-HIEUHcTIKEUT",
    "cSSANGTIKEUTcRIEULcRIEUL-KIYEOKcRIEUL-MIEUMcRIEUL-PIEUPcRIEUL-SIOScRIEUL-THIEUTH",
    "cRIEUL-PHIEUPHcRIEUL-HIEUHcMIEUMcPIEUPcSSANGPIEUPcPIEUP-SIOScSIOScSSANGSIOScIEUNGcCIEUC",
    "cSSANGCIEUCcCHIEUCHcKHIEUKHcTHIEUTHcPHIEUPHcHIEUHcAcAEcYAcYAEcEOcEcYEOcYEcOcWAcWAEcOEcYOcU",
    "cWEOcWEcWIcYUcEUcYIcIbFILLERbLETTER SSANGNIEUNcNIEUN-TIKEUTcNIEUN-SIOScNIEUN-PANSIOS",
    "cRIEUL-KIYEOK-SIOScRIEUL-TIKEUTcRIEUL-PIEUP-SIOScRIEUL-PANSIOScRIEUL-YEORINHIEUH",
    "cMIEUM-PIEUPcMIEUM-SIOScMIEUM-PANSIOScKAPYEOUNMIEUMcPIEUP-KIYEOKcPIEUP-TIKEUT",
    "cPIEUP-SIOS-KIYEOKcPIEUP-SIOS-TIKEUTcPIEUP-CIEUCcPIEUP-THIEUTHcKAPYEOUNPIEUP",
    "cKAPYEOUNSSANGPIEUPcSIOS-KIYEOKcSIOS-NIEUNcSIOS-TIKEUTcSIOS-PIEUPcSIOS-CIEUCcPANSIOS",
    "cSSANGIEUNGcYESIEUNGcYESIEUNG-SIOScYESIEUNG-PANSIOScKAPYEOUNPHIEUPHcSSANGHIEUHcYEORINHIEUH",
    "cYO-YAcYO-YAEcYO-IcYU-YEOcYU-YEcYU-IcARAEAcARAEAE.aIDEOGRAPHIC ANNOTATION LINKING MARK",
    "cREVERSE:1cONE:1cTWO:1cTHREE:1cFOUR:1cTOP:1cMIDDLE:1cBOTTOM:1cFIRST:1cSECOND:1cTHIRD:1",
    "cFOURTH:1cHEAVEN:1cEARTH:1cMAN:1aBOPOMOFO LETTER BUcZIcJIcGUcEEcENNcOOcONNcIRcANNcINNcUNN",
    "cIMcNGGcAINNcAUNNcAMcOMcONGcINNNbFINAL LETTER PdTdKdHbLETTER GHcLHcZYbFINAL LETTER G",
    "bLETTER GWcKWcOEcAHaCJK STROKE TcWGcXGcBXGcSWcHZZcHZGcHPcHZWGcSZWGcHZTcHZZPcHPWGcHZWcHZZZcN",
    "cHcScPcSPcDcHZcHGcSZcSWZcSTcSGcPDcPZcTNcSZZcSWGcHXWGcHZZZGcPGcQ............",
    "aKATAKANA LETTER SMALL KUdSIdSUdTOdNUdHAdHIdHUdHEdHOdMUdRAdRIdRUdREdRO",
    "aPARENTHESIZED HANGUL KIYEOKcNIEUNcTIKEUTcRIEULcMIEUMcPIEUPcSIOScIEUNGcCIEUCcCHIEUCH",
    "cKHIEUKHcTHIEUTHcPHIEUPHcHIEUHcKIYEOK AcNIEUN AcTIKEUT AcRIEUL AcMIEUM AcPIEUP AcSIOS A",
    "cIEUNG AcCIEUC AcCHIEUCH AcKHIEUKH AcTHIEUTH AcPHIEUPH AcHIEUH AcCIEUC U",
    "bKOREAN CHARACTER OJEONdO HU.bIDEOGRAPH ONEcTWOcTHREEcFOURcFIVEcSIXcSEVENcEIGHTcNINEcTEN",
    "cMOONcFIREcWATERcWOODcMETALcEARTHcSUNcSTOCKcHAVEcSOCIETYcNAMEcSPECIALcFINANCIAL",
    "cCONGRATULATIONcLABORcREPRESENTcCALLcSTUDYcSUPERVISEcENTERPRISEcRESOURCEcALLIANCEcFESTIVAL",
    "cRESTcSELFcREACHaCIRCLED IDEOGRAPH QUESTIONcKINDERGARTENcSCHOOLcKOTO",
    "bNUMBER TEN ON BLACK SQUAREcTWENTY:3cTHIRTY:3cFORTY:3cFIFTY:3cSIXTY:3cSEVENTY:3cEIGHTY:3",
    "aPARTNERSHIP SIGNaCIRCLED NUMBER TWENTY ONEdTWOdTHREEdFOURdFIVEdSIXdSEVENdEIGHTdNINEcTHIRTY",
    "dONEdTWOdTHREEdFOURdFIVEbHANGUL KIYEOKcNIEUNcTIKEUTcRIEULcMIEUMcPIEUPcSIOScIEUNGcCIEUC",
    "cCHIEUCHcKHIEUKHcTHIEUTHcPHIEUPHcHIEUHcKIYEOK AcNIEUN AcTIKEUT AcRIEUL AcMIEUM AcPIEUP A",
    "cSIOS AcIEUNG AcCIEUC AcCHIEUCH AcKHIEUKH AcTHIEUTH AcPHIEUPH AcHIEUH A",
    "bKOREAN CHARACTER CHAMKOdJUEUIbHANGUL IEUNG UaKOREAN STANDARD SYMBOLaCIRCLED IDEOGRAPH ONE",
    "cTWOcTHREEcFOURcFIVEcSIXcSEVENcEIGHTcNINEcTENcMOONcFIREcWATERcWOODcMETALcEARTHcSUNcSTOCK",
    "cHAVEcSOCIETYcNAMEcSPECIALcFINANCIALcCONGRATULATIONcLABORcSECRETcMALEcFEMALEcSUITABLE",
    "cEXCELLENTcPRINTcATTENTIONcITEMcRESTcCOPYcCORRECTcHIGHcCENTREcLOWcLEFTcRIGHTcMEDICINE",
    "cRELIGIONcSTUDYcSUPERVISEcENTERPRISEcRESOURCEcALLIANCEcNIGHTbNUMBER THIRTY SIXdSEVENdEIGHT",
    "dNINEcFORTYdONEdTWOdTHREEdFOURdFIVEdSIXdSEVENdEIGHTdNINEcFIFTY",
    "aIDEOGRAPHIC TELEGRAPH SYMBOL FOR JANUARYeFEBRUARYeMARCHeAPRILeMAYeJUNEeJULYeAUGUST",
    "eSEPTEMBEReOCTOBEReNOVEMBEReDECEMBERaSQUARE HGbERGbEVaLIMITED LIABILITY SIGN",
    "aCIRCLED KATAKANA AcIcUcEcOcKAcKIcKUcKEcKOcSAcSIcSUcSEcSOcTAcTIcTUcTEcTOcNAcNIcNUcNEcNOcHA",
    "cHIcHUcHEcHOcMAcMIcMUcMEcMOcYAcYUcYOcRAcRIcRUcREcROcWAcWIcWEcWOaSQUARE ERA NAME REIWA",
    "bAPAATObARUHUAbANPEAbAARUbININGUbINTIbUONbESUKUUDObEEKAAbONSUbOOMUbKAIRIbKARATTObKARORII",
    "bGARONbGANMAbGIGAbGINIIbKYURIIbGIRUDAAbKIRObKIROGURAMUbKIROMEETORUbKIROWATTObGURAMU",
    "bGURAMUTONbKURUZEIRObKUROONEbKEESUbKORUNAbKOOPObSAIKURUbSANTIIMUbSIRINGUbSENTIbSENTObDAASU",
    "bDESIbDORUbTONbNANObNOTTObHAITUbPAASENTObPAATUbBAARERUbPIASUTORUbPIKURUbPIKObBIRUbHUARADDO",
    "bHUIITObBUSSYERUbHURANbHEKUTAARUbPESObPENIHIbHERUTUbPENSUbPEEZIbBEETAbPOINTObBORUTObHON",
    "bPONDObHOORUbHOONbMAIKURObMAIRUbMAHHAbMARUKUbMANSYONbMIKURONbMIRIbMIRIBAARUbMEGAbMEGATON",
    "bMEETORUbYAADObYAARUbYUANbRITTORUbRIRAbRUPIIbRUUBURUbREMUbRENTOGENbWATTO",
    "aIDEOGRAPHIC TELEGRAPH SYMBOL FOR HOUR ZEROfONEfTWOfTHREEfFOURfFIVEfSIXfSEVENfEIGHTfNINE",
    "fTENfELEVENfTWELVEfTHIRTEENfFOURTEENfFIFTEENfSIXTEENfSEVENTEENfEIGHTEENfNINETEENfTWENTY",
    "fTWENTY-ONEfTWENTY-TWOfTWENTY-THREEfTWENTY-FOURaSQUARE HPAbDAbAUbBARbOVbPCbDMcSQUAREDcCUBED",
    "bIUbERA NAME HEISEIdSYOUWAdTAISYOUdMEIZIbCORPORATIONbPA AMPSbNAbMU AbMAbKAbKBbMBbGBbCAL",
    "bKCALbPFbNFbMU FcGbMGbKGbHZbKHZbMHZbGHZbTHZbMU LbMLbDLbKLbFMbNMbMU MbMMbCMbKMbMM SQUARED",
    "bCM:1bM:1bKM:1bMM CUBEDbCM:1bM:1bKM:1bM OVER SeSQUAREDbPAbKPAbMPAbGPAbRADcOVER SeSQUAREDbPS",
    "bNSbMU SbMSbPVbNVbMU VbMVbKVbMV MEGAbPWbNWbMU WbMWbKWbMW MEGAbK OHMbM:1bAMbBQbCCbCD",
    "bC OVER KGbCObDBbGYbHAbHPbINbKKbKM CAPITALbKTbLMbLNbLOGbLXbMB SMALLbMILbMOLbPHbPMbPPMbPRbSR",
    "bSVbWBbV OVER MbA:2aIDEOGRAPHIC TELEGRAPH SYMBOL FOR DAY ONEfTWOfTHREEfFOURfFIVEfSIXfSEVEN",
    "fEIGHTfNINEfTENfELEVENfTWELVEfTHIRTEENfFOURTEENfFIFTEENfSIXTEENfSEVENTEENfEIGHTEENfNINETEEN",
    "fTWENTYfTWENTY-ONEfTWENTY-TWOfTWENTY-THREEfTWENTY-FOURfTWENTY-FIVEfTWENTY-SIXfTWENTY-SEVEN",
    "fTWENTY-EIGHTfTWENTY-NINEfTHIRTYfTHIRTY-ONEaSQUARE GAL"]),
  (19904, [
    "aHEXAGRAM FOR THE CREATIVE HEAVENdRECEPTIVE EARTHcDIFFICULTY AT THE BEGINNING",
    "cYOUTHFUL FOLLYcWAITINGcCONFLICTcTHE ARMYcHOLDING TOGETHERcSMALL TAMINGcTREADINGcPEACE",
    "cSTANDSTILLcFELLOWSHIPcGREAT POSSESSIONcMODESTYcENTHUSIASMcFOLLOWINGcWORK ON THE DECAYED",
    "cAPPROACHcCONTEMPLATIONcBITING THROUGHcGRACEcSPLITTING APARTcRETURNcINNOCENCEcGREAT TAMING",
    "cMOUTH CORNERScGREAT PREPONDERANCEcTHE ABYSMAL WATERdCLINGING FIREcINFLUENCEcDURATION",
    "cRETREATcGREAT POWERcPROGRESScDARKENING OF THE LIGHTcTHE FAMILYcOPPOSITIONcOBSTRUCTION",
    "cDELIVERANCEcDECREASEcINCREASEcBREAKTHROUGHcCOMING TO MEETcGATHERING TOGETHER",
    "cPUSHING UPWARDcOPPRESSIONcTHE WELLcREVOLUTIONcTHE CAULDRONdAROUSING THUNDER",
    "dKEEPING STILL MOUNTAINcDEVELOPMENTcTHE MARRYING MAIDENcABUNDANCEcTHE WANDERERdGENTLE WIND",
    "dJOYOUS LAKEcDISPERSIONcLIMITATIONcINNER TRUTHcSMALL PREPONDERANCEcAFTER COMPLETION",
    "cBEFORE:1"]),
  (40960, [
    "aYI SYLLABLE ITcIXcIcIPcIETcIEXcIEcIEPcATcAXcAcAPcUOXcUOcUOPcOTcOXcOcOPcEXcEcWUcBITcBIXcBI",
    "cBIPcBIETcBIEXcBIEcBIEPcBATcBAXcBAcBAPcBUOXcBUOcBUOPcBOTcBOXcBOcBOPcBEXcBEcBEPcBUTcBUXcBU",
    "cBUPcBURXcBURcBYTcBYXcBYcBYPcBYRXcBYRcPITcPIXcPIcPIPcPIEXcPIEcPIEPcPATcPAXcPAcPAPcPUOXcPUO",
    "cPUOPcPOTcPOXcPOcPOPcPUTcPUXcPUcPUPcPURXcPURcPYTcPYXcPYcPYPcPYRXcPYRcBBITcBBIXcBBIcBBIP",
    "cBBIETcBBIEXcBBIEcBBIEPcBBATcBBAXcBBAcBBAPcBBUOXcBBUOcBBUOPcBBOTcBBOXcBBOcBBOPcBBEXcBBE",
    "cBBEPcBBUTcBBUXcBBUcBBUPcBBURXcBBURcBBYTcBBYXcBBYcBBYPcNBITcNBIXcNBIcNBIPcNBIEXcNBIEcNBIEP",
    "cNBATcNBAXcNBAcNBAPcNBOTcNBOXcNBOcNBOPcNBUTcNBUXcNBUcNBUPcNBURXcNBURcNBYTcNBYXcNBYcNBYP",
    "cNBYRXcNBYRcHMITcHMIXcHMIcHMIPcHMIEXcHMIEcHMIEPcHMATcHMAXcHMAcHMAPcHMUOXcHMUOcHMUOPcHMOT",
    "cHMOXcHMOcHMOPcHMUTcHMUXcHMUcHMUPcHMURXcHMURcHMYXcHMYcHMYPcHMYRXcHMYRcMITcMIXcMIcMIPcMIEX",
    "cMIEcMIEPcMATcMAXcMAcMAPcMUOTcMUOXcMUOcMUOPcMOTcMOXcMOcMOPcMEXcMEcMUTcMUXcMUcMUPcMURXcMUR",
    "cMYTcMYXcMYcMYPcFITcFIXcFIcFIPcFATcFAXcFAcFAPcFOXcFOcFOPcFUTcFUXcFUcFUPcFURXcFURcFYTcFYXcFY",
    "cFYPcVITcVIXcVIcVIPcVIETcVIEXcVIEcVIEPcVATcVAXcVAcVAPcVOTcVOXcVOcVOPcVEXcVEPcVUTcVUXcVUcVUP",
    "cVURXcVURcVYTcVYXcVYcVYPcVYRXcVYRcDITcDIXcDIcDIPcDIEXcDIEcDIEPcDATcDAXcDAcDAPcDUOXcDUOcDOT",
    "cDOXcDOcDOPcDEXcDEcDEPcDUTcDUXcDUcDUPcDURXcDURcTITcTIXcTIcTIPcTIEXcTIEcTIEPcTATcTAXcTAcTAP",
    "cTUOTcTUOXcTUOcTUOPcTOTcTOXcTOcTOPcTEXcTEcTEPcTUTcTUXcTUcTUPcTURXcTURcDDITcDDIXcDDIcDDIP",
    "cDDIEXcDDIEcDDIEPcDDATcDDAXcDDAcDDAPcDDUOXcDDUOcDDUOPcDDOTcDDOXcDDOcDDOPcDDEXcDDEcDDEPcDDUT",
    "cDDUXcDDUcDDUPcDDURXcDDURcNDITcNDIXcNDIcNDIPcNDIEXcNDIEcNDATcNDAXcNDAcNDAPcNDOTcNDOXcNDO",
    "cNDOPcNDEXcNDEcNDEPcNDUTcNDUXcNDUcNDUPcNDURXcNDURcHNITcHNIXcHNIcHNIPcHNIETcHNIEXcHNIEcHNIEP",
    "cHNATcHNAXcHNAcHNAPcHNUOXcHNUOcHNOTcHNOXcHNOPcHNEXcHNEcHNEPcHNUTcNITcNIXcNIcNIPcNIEXcNIE",
    "cNIEPcNAXcNAcNAPcNUOXcNUOcNUOPcNOTcNOXcNOcNOPcNEXcNEcNEPcNUTcNUXcNUcNUPcNURXcNURcHLITcHLIX",
    "cHLIcHLIPcHLIEXcHLIEcHLIEPcHLATcHLAXcHLAcHLAPcHLUOXcHLUOcHLUOPcHLOXcHLOcHLOPcHLEXcHLEcHLEP",
    "cHLUTcHLUXcHLUcHLUPcHLURXcHLURcHLYTcHLYXcHLYcHLYPcHLYRXcHLYRcLITcLIXcLIcLIPcLIETcLIEXcLIE",
    "cLIEPcLATcLAXcLAcLAPcLUOTcLUOXcLUOcLUOPcLOTcLOXcLOcLOPcLEXcLEcLEPcLUTcLUXcLUcLUPcLURXcLUR",
    "cLYTcLYXcLYcLYPcLYRXcLYRcGITcGIXcGIcGIPcGIETcGIEXcGIEcGIEPcGATcGAXcGAcGAPcGUOTcGUOXcGUO",
    "cGUOPcGOTcGOXcGOcGOPcGETcGEXcGEcGEPcGUTcGUXcGUcGUPcGURXcGURcKITcKIXcKIcKIPcKIEXcKIEcKIEP",
    "cKATcKAXcKAcKAPcKUOXcKUOcKUOPcKOTcKOXcKOcKOPcKETcKEXcKEcKEPcKUTcKUXcKUcKUPcKURXcKURcGGIT",
    "cGGIXcGGIcGGIEXcGGIEcGGIEPcGGATcGGAXcGGAcGGAPcGGUOTcGGUOXcGGUOcGGUOPcGGOTcGGOXcGGOcGGOP",
    "cGGETcGGEXcGGEcGGEPcGGUTcGGUXcGGUcGGUPcGGURXcGGURcMGIEXcMGIEcMGATcMGAXcMGAcMGAPcMGUOXcMGUO",
    "cMGUOPcMGOTcMGOXcMGOcMGOPcMGEXcMGEcMGEPcMGUTcMGUXcMGUcMGUPcMGURXcMGURcHXITcHXIXcHXIcHXIP",
    "cHXIETcHXIEXcHXIEcHXIEPcHXATcHXAXcHXAcHXAPcHXUOTcHXUOXcHXUOcHXUOPcHXOTcHXOXcHXOcHXOPcHXEX",
    "cHXEcHXEPcNGIEXcNGIEcNGIEPcNGATcNGAXcNGAcNGAPcNGUOTcNGUOXcNGUOcNGOTcNGOXcNGOcNGOPcNGEXcNGE",
    "cNGEPcHITcHIEXcHIEcHATcHAXcHAcHAPcHUOTcHUOXcHUOcHUOPcHOTcHOXcHOcHOPcHEXcHEcHEPcWATcWAXcWA",
    "cWAPcWUOXcWUOcWUOPcWOXcWOcWOPcWEXcWEcWEPcZITcZIXcZIcZIPcZIEXcZIEcZIEPcZATcZAXcZAcZAPcZUOX",
    "cZUOcZUOPcZOTcZOXcZOcZOPcZEXcZEcZEPcZUTcZUXcZUcZUPcZURXcZURcZYTcZYXcZYcZYPcZYRXcZYRcCITcCIX",
    "cCIcCIPcCIETcCIEXcCIEcCIEPcCATcCAXcCAcCAPcCUOXcCUOcCUOPcCOTcCOXcCOcCOPcCEXcCEcCEPcCUTcCUX",
    "cCUcCUPcCURXcCURcCYTcCYXcCYcCYPcCYRXcCYRcZZITcZZIXcZZIcZZIPcZZIETcZZIEXcZZIEcZZIEPcZZAT",
    "cZZAXcZZAcZZAPcZZOXcZZOcZZOPcZZEXcZZEcZZEPcZZUXcZZUcZZUPcZZURXcZZURcZZYTcZZYXcZZYcZZYP",
    "cZZYRXcZZYRcNZITcNZIXcNZIcNZIPcNZIEXcNZIEcNZIEPcNZATcNZAXcNZAcNZAPcNZUOXcNZUOcNZOXcNZOP",
    "cNZEXcNZEcNZUXcNZUcNZUPcNZURXcNZURcNZYTcNZYXcNZYcNZYPcNZYRXcNZYRcSITcSIXcSIcSIPcSIEXcSIE",
    "cSIEPcSATcSAXcSAcSAPcSUOXcSUOcSUOPcSOTcSOXcSOcSOPcSEXcSEcSEPcSUTcSUXcSUcSUPcSURXcSURcSYT",
    "cSYXcSYcSYPcSYRXcSYRcSSITcSSIXcSSIcSSIPcSSIEXcSSIEcSSIEPcSSATcSSAXcSSAcSSAPcSSOTcSSOXcSSO",
    "cSSOPcSSEXcSSEcSSEPcSSUTcSSUXcSSUcSSUPcSSYTcSSYXcSSYcSSYPcSSYRXcSSYRcZHATcZHAXcZHAcZHAP",
    "cZHUOXcZHUOcZHUOPcZHOTcZHOXcZHOcZHOPcZHETcZHEXcZHEcZHEPcZHUTcZHUXcZHUcZHUPcZHURXcZHURcZHYT",
    "cZHYXcZHYcZHYPcZHYRXcZHYRcCHATcCHAXcCHAcCHAPcCHUOTcCHUOXcCHUOcCHUOPcCHOTcCHOXcCHOcCHOPcCHET",
    "cCHEXcCHEcCHEPcCHUXcCHUcCHUPcCHURXcCHURcCHYTcCHYXcCHYcCHYPcCHYRXcCHYRcRRAXcRRAcRRUOXcRRUO",
    "cRROTcRROXcRROcRROPcRRETcRREXcRREcRREPcRRUTcRRUXcRRUcRRUPcRRURXcRRURcRRYTcRRYXcRRYcRRYP",
    "cRRYRXcRRYRcNRATcNRAXcNRAcNRAPcNROXcNROcNROPcNRETcNREXcNREcNREPcNRUTcNRUXcNRUcNRUPcNRURX",
    "cNRURcNRYTcNRYXcNRYcNRYPcNRYRXcNRYRcSHATcSHAXcSHAcSHAPcSHUOXcSHUOcSHUOPcSHOTcSHOXcSHOcSHOP",
    "cSHETcSHEXcSHEcSHEPcSHUTcSHUXcSHUcSHUPcSHURXcSHURcSHYTcSHYXcSHYcSHYPcSHYRXcSHYRcRATcRAXcRA",
    "cRAPcRUOXcRUOcRUOPcROTcROXcROcROPcREXcREcREPcRUTcRUXcRUcRUPcRURXcRURcRYTcRYXcRYcRYPcRYRX",
    "cRYRcJITcJIXcJIcJIPcJIETcJIEXcJIEcJIEPcJUOTcJUOXcJUOcJUOPcJOTcJOXcJOcJOPcJUTcJUXcJUcJUP",
    "cJURXcJURcJYTcJYXcJYcJYPcJYRXcJYRcQITcQIXcQIcQIPcQIETcQIEXcQIEcQIEPcQUOTcQUOXcQUOcQUOPcQOT",
    "cQOXcQOcQOPcQUTcQUXcQUcQUPcQURXcQURcQYTcQYXcQYcQYPcQYRXcQYRcJJITcJJIXcJJIcJJIPcJJIETcJJIEX",
    "cJJIEcJJIEPcJJUOXcJJUOcJJUOPcJJOTcJJOXcJJOcJJOPcJJUTcJJUXcJJUcJJUPcJJURXcJJURcJJYTcJJYXcJJY",
    "cJJYPcNJITcNJIXcNJIcNJIPcNJIETcNJIEXcNJIEcNJIEPcNJUOXcNJUOcNJOTcNJOXcNJOcNJOPcNJUXcNJUcNJUP",
    "cNJURXcNJURcNJYTcNJYXcNJYcNJYPcNJYRXcNJYRcNYITcNYIXcNYIcNYIPcNYIETcNYIEXcNYIEcNYIEPcNYUOX",
    "cNYUOcNYUOPcNYOTcNYOXcNYOcNYOPcNYUTcNYUXcNYUcNYUPcXITcXIXcXIcXIPcXIETcXIEXcXIEcXIEPcXUOX",
    "cXUOcXOTcXOXcXOcXOPcXYTcXYXcXYcXYPcXYRXcXYRcYITcYIXcYIcYIPcYIETcYIEXcYIEcYIEPcYUOTcYUOXcYUO",
    "cYUOPcYOTcYOXcYOcYOPcYUTcYUXcYUcYUPcYURXcYURcYYTcYYXcYYcYYPcYYRXcYYR...bRADICAL QOTcLIcKIT",
    "cNYIPcCYPcSSIcGGOPcGEPcMIcHXITcLYRcBBUTcMOPcYOcPUTcHXUOcTATcGAcZUPcCYTcDDURcBURcGGUOcNYOP",
    "cTUcOPcJJUTcZOTcPYTcHMOcYITcVURcSHYcVEPcZAcJOcNZUPcJJYcGOTcJJIEcWOcDUcSHURcLIEcCYcCUOPcCIP",
    "cHXOPcSHATcZURcSHOPcCHEcZZIETcNBIEcKE.........aLISU LETTER BAcPAcPHAcDAcTAcTHAcGAcKAcKHAcJA",
    "cCAcCHAcDZAcTSAcTSHAcMAcNAcLAcSAcZHAcZAcNGAcHAcXAcHHAcFAcWAcSHAcYAcGHAcAcAEcEcEUcIcOcUcUE",
    "cUHcOEcTONE MYA TIdNA POdMYA CYAeBOeNAeJEUbPUNCTUATION COMMAcFULL STOPaVAI SYLLABLE EEcEEN",
    "cHEEcWEEcWEENcPEEcBHEEcBEEcMBEEcKPEEcMGBEEcGBEEcFEEcVEEcTEEcTHEEcDHEEcDHHEEcLEEcREEcDEE",
    "cNDEEcSEEcSHEEcZEEcZHEEcCEEcJEEcNJEEcYEEcKEEcNGGEEcGEEcMEEcNEEcNYEEcIcINcHIcHINcWIcWINcPI",
    "cBHIcBIcMBIcKPIcMGBIcGBIcFIcVIcTIcTHIcDHIcDHHIcLIcRIcDIcNDIcSIcSHIcZIcZHIcCIcJIcNJIcYIcKI",
    "cNGGIcGIcMIcNIcNYIcAcANcNGANcHAcHANcWAcWANcPAcBHAcBAcMBAcKPAcKPANcMGBAcGBAcFAcVAcTAcTHAcDHA",
    "cDHHAcLAcRAcDAcNDAcSAcSHAcZAcZHAcCAcJAcNJAcYAcKAcKANcNGGAcGAcMAcNAcNYAcOOcOONcHOOcWOOcWOON",
    "cPOOcBHOOcBOOcMBOOcKPOOcMGBOOcGBOOcFOOcVOOcTOOcTHOOcDHOOcDHHOOcLOOcROOcDOOcNDOOcSOOcSHOO",
    "cZOOcZHOOcCOOcJOOcNJOOcYOOcKOOcNGGOOcGOOcMOOcNOOcNYOOcUcUNcHUcHUNcWUcWUNcPUcBHUcBUcMBUcKPU",
    "cMGBUcGBUcFUcVUcTUcTHUcDHUcDHHUcLUcRUcDUcNDUcSUcSHUcZUcZHUcCUcJUcNJUcYUcKUcNGGUcGUcMUcNU",
    "cNYUcOcONcNGONcHOcHONcWOcWONcPOcBHOcBOcMBOcKPOcMGBOcGBOcGBONcFOcVOcTOcTHOcDHOcDHHOcLOcROcDO",
    "cNDOcSOcSHOcZOcZHOcCOcJOcNJOcYOcKOcNGGOcGOcMOcNOcNYOcEcENcNGENcHEcHENcWEcWENcPEcBHEcBEcMBE",
    "cKPEcKPENcMGBEcGBEcGBENcFEcVEcTEcTHEcDHEcDHHEcLEcREcDEcNDEcSEcSHEcZEcZHEcCEcJEcNJEcYEcKE",
    "cNGGEcNGGENcGEcGENcMEcNEcNYEcNGcLENGTHENERbCOMMAbFULL STOPbQUESTION MARKbSYLLABLE NDOLE FA",
    "dKAdSOObSYMBOL FEENGcKEENGcTINGcNIIcBANGcFAAcTAAcDANGcDOONGcKUNGcTONGcDO-OcJONGbDIGIT ZERO",
    "cONEcTWOcTHREEcFOURcFIVEcSIXcSEVENcEIGHTcNINEbSYLLABLE NDOLE MAdDO....................",
    "aCYRILLIC CAPITAL LETTER ZEMLYAbSMALL:2bCAPITAL LETTER DZELObSMALL:2",
    "bCAPITAL LETTER REVERSED DZEbSMALL:3bCAPITAL LETTER IOTAbSMALL:2bCAPITAL LETTER DJERV",
    "bSMALL:2bCAPITAL LETTER MONOGRAPH UKbSMALL:3bCAPITAL LETTER BROAD OMEGAbSMALL:3",
    "bCAPITAL LETTER NEUTRAL YERbSMALL:3bCAPITAL LETTER YERU WITH BACK:1bSMALL:5",
    "bCAPITAL LETTER IOTIFIED YATbSMALL:3bCAPITAL LETTER REVERSED YUbSMALL:3",
    "bCAPITAL LETTER IOTIFIED AbSMALL:3bCAPITAL LETTER CLOSED LITTLE YUSbSMALL:4",
    "bCAPITAL LETTER BLENDED:1bSMALL:3bCAPITAL LETTER IOTIFIED CLOSED LITTLE:1bSMALL:5",
    "bCAPITAL LETTER YNbSMALL:2bCAPITAL LETTER REVERSED TSEbSMALL:3bCAPITAL LETTER SOFT DE",
    "bSMALL:3bCAPITAL LETTER SOFT ELbSMALL:3bCAPITAL LETTER SOFT EMbSMALL:3",
    "bCAPITAL LETTER MONOCULAR ObSMALL:3bCAPITAL LETTER BINOCULAR ObSMALL:3",
    "bCAPITAL LETTER DOUBLE MONOCULAR ObSMALL:4bLETTER MULTIOCULAR OaCOMBINING CYRILLIC VZMET",
    "cTEN MILLIONS SIGNcHUNDRED:2cTHOUSAND:2aSLAVONIC ASTERISK",
    "aCOMBINING CYRILLIC LETTER UKRAINIAN IEdIdYIdUdHARD SIGNdYERUdSOFT SIGNdOMEGAcKAVYKA",
    "cPAYEROKaCYRILLIC KAVYKAbPAYEROKbCAPITAL LETTER DWEbSMALL:2bCAPITAL LETTER DZWEbSMALL:2",
    "bCAPITAL LETTER ZHWEbSMALL:2bCAPITAL LETTER CCHEbSMALL:2bCAPITAL LETTER DZZEbSMALL:2",
    "bCAPITAL LETTER TE WITH MIDDLE HOOKbSMALL:5bCAPITAL LETTER TWEbSMALL:2bCAPITAL LETTER TSWE",
    "bSMALL:2bCAPITAL LETTER TSSEbSMALL:2bCAPITAL LETTER TCHEbSMALL:2bCAPITAL LETTER HWEbSMALL:2",
    "bCAPITAL LETTER SHWEbSMALL:2bCAPITAL LETTER DOUBLE ObSMALL:3bCAPITAL LETTER CROSSED O",
    "bSMALL:3aMODIFIER LETTER CYRILLIC HARD SIGNdSOFT:1aCOMBINING CYRILLIC LETTER EFdIOTIFIED E",
    "aBAMUM LETTER AcKAcUcKUcEEcREEcTAEcOcNYIcIcLAcPAcRIIcRIEEcLEEEEcMEEEEcTAAcNDAAcNJAEMcMcSUU",
    "cMUcSHIIcSIcSHEUXcSEUXcKYEEcKETcNUAEcNUcNJUAEcYOQcSHUcYUQcYAcNSHAcKEUXcPEUXcNJEEcNTEEcPUE",
    "cWUEcPEEcFEEcRUcLUcMIcNIcREUXcRAEcKENcNGKWAENcNGGAcNGAcSHOcPUAEcFUcFOMcWAcNAcLIcPIcLOQcKO",
    "cMBENcRENcMENcMAcTIcKIcMOcMBAAcTETcKPAcTENcNTUUcSAMBAcFAAMAEcKOVUUcKOGHOM",
    "bCOMBINING MARK KOQNDONdTUKWENTISbNJAEMLIbFULL STOPbCOLONbCOMMAbSEMICOLONbQUESTION MARK....",
    "....aMODIFIER LETTER CHINESE TONE YIN PINGeYANG:1eYIN SHANGeYANG:1eYIN QUeYANG:1eYIN RU",
    "eYANG:1cEXTRA-HIGH DOTTED TONE BARcHIGH:3cMID:3cLOW:3cEXTRA-LOW:3",
    "cEXTRA-HIGH DOTTED LEFT-STEM:2cHIGH:4cMID:4cLOW:4cEXTRA-LOW:4cEXTRA-HIGH:3cHIGH:3cMID:3",
    "cLOW:3cEXTRA-LOW:3cDOT VERTICAL:1dSLASHdHORIZONTAL BARcLOWER RIGHT CORNER ANGLE",
    "cRAISED UP ARROWdDOWN:1dEXCLAMATION MARKdINVERTED:2cLOW:3cSTRESS AND HIGH TONEeLOW:1",
    "aLATIN CAPITAL LETTER EGYPTOLOGICAL ALEFbSMALL:3bCAPITAL LETTER EGYPTOLOGICAL AINbSMALL:3",
    "bCAPITAL LETTER HENGbSMALL:2bCAPITAL LETTER TZbSMALL:2bCAPITAL LETTER TRESILLObSMALL:2",
    "bCAPITAL LETTER CUATRILLObSMALL:2bCAPITAL LETTER CUATRILLO WITH COMMAbSMALL:4",
    "bLETTER SMALL CAPITAL FeSbCAPITAL LETTER AAbSMALL:2bCAPITAL LETTER AObSMALL:2",
    "bCAPITAL LETTER AUbSMALL:2bCAPITAL LETTER AVbSMALL:2bCAPITAL LETTER AV WITH HORIZONTAL BAR",
    "bSMALL:5bCAPITAL LETTER AYbSMALL:2bCAPITAL LETTER REVERSED C WITH DOTbSMALL:5",
    "bCAPITAL LETTER K WITH STROKEbSMALL:4bCAPITAL LETTER K WITH DIAGONAL:1bSMALL:5",
    "bCAPITAL LETTER K WITH STROKE AND:2bSMALL:7bCAPITAL LETTER BROKEN LbSMALL:3",
    "bCAPITAL LETTER L WITH HIGH STROKEbSMALL:5bCAPITAL LETTER O WITH LONG STROKE OVERLAY",
    "bSMALL:6bCAPITAL LETTER O WITH LOOPbSMALL:4bCAPITAL LETTER OObSMALL:2",
    "bCAPITAL LETTER P WITH STROKE THROUGH DESCENDERbSMALL:6bCAPITAL LETTER P WITH FLOURISH",
    "bSMALL:4bCAPITAL LETTER P WITH SQUIRREL TAILbSMALL:5",
    "bCAPITAL LETTER Q WITH STROKE THROUGH DESCENDERbSMALL:6",
    "bCAPITAL LETTER Q WITH DIAGONAL STROKEbSMALL:5bCAPITAL LETTER R ROTUNDAbSMALL:3",
    "bCAPITAL LETTER RUM:1bSMALL:3bCAPITAL LETTER V WITH DIAGONAL STROKEbSMALL:5",
    "bCAPITAL LETTER VYbSMALL:2bCAPITAL LETTER VISIGOTHIC ZbSMALL:3",
    "bCAPITAL LETTER THORN WITH STROKEbSMALL:4",
    "bCAPITAL LETTER THORN WITH STROKE THROUGH DESCENDERbSMALL:6bCAPITAL LETTER VENDbSMALL:2",
    "bCAPITAL LETTER ETbSMALL:2bCAPITAL LETTER ISbSMALL:2bCAPITAL LETTER CONbSMALL:2",
    "aMODIFIER LETTER USaLATIN SMALL LETTER DUMdLUMdMUMdNUMdRUMbLETTER SMALL CAPITAL:1",
    "bSMALL LETTER TUMdUMbCAPITAL LETTER INSULAR DbSMALL:3bCAPITAL LETTER INSULAR FbSMALL:3",
    "bCAPITAL LETTER INSULAR GdTURNED:2bSMALL:4bCAPITAL LETTER TURNED LbSMALL:3",
    "bCAPITAL LETTER INSULAR RbSMALL:3bCAPITAL LETTER INSULAR SbSMALL:3bCAPITAL LETTER INSULAR T",
    "bSMALL:3aMODIFIER LETTER LOW CIRCUMFLEX ACCENTcCOLONcSHORT EQUALS SIGN",
    "aLATIN CAPITAL LETTER SALTILLObSMALL:2bCAPITAL LETTER TURNED H",
    "bSMALL LETTER L WITH RETROFLEX HOOK AND BELTbLETTER SINOLOGICAL DOT",
    "bCAPITAL LETTER N WITH DESCENDERbSMALL:4bCAPITAL LETTER C WITH BARbSMALL:4fPALATAL HOOKdH:3",
    "bCAPITAL LETTER B WITH FLOURISHbSMALL:4bCAPITAL LETTER F WITH STROKEbSMALL:4",
    "bCAPITAL LETTER VOLAPUK AEbSMALL:3bCAPITAL LETTER VOLAPUK OEbSMALL:3",
    "bCAPITAL LETTER VOLAPUK UEbSMALL:3bCAPITAL LETTER G WITH OBLIQUE STROKEbSMALL:5",
    "bCAPITAL LETTER K:3bSMALL:5bCAPITAL LETTER N:3bSMALL:5bCAPITAL LETTER R:3bSMALL:5",
    "bCAPITAL LETTER S:3bSMALL:5bCAPITAL LETTER H WITH HOOKdREVERSED OPEN EdSCRIPT GdL WITH BELT",
    "dSMALL CAPITAL IbLETTER SMALL CAPITAL QbCAPITAL LETTER TURNED KeTdJ WITH CROSSED-TAILdCHI",
    "dBETAbSMALL:2bCAPITAL LETTER OMEGAbSMALL:2bCAPITAL LETTER U WITH STROKEbSMALL:4",
    "bCAPITAL LETTER GLOTTAL AbSMALL:3bCAPITAL LETTER GLOTTAL IbSMALL:3bCAPITAL LETTER GLOTTAL U",
    "bSMALL:3bCAPITAL LETTER OLD POLISH ObSMALL:4bCAPITAL LETTER ANGLICANA WbSMALL:3",
    "bCAPITAL LETTER C WITH PALATAL HOOKdS WITH:1dZ WITH PALATAL:1dD WITH SHORT STROKE OVERLAY",
    "bSMALL:6bCAPITAL LETTER S:4bSMALL:6.....bCAPITAL LETTER CLOSED INSULAR GbSMALL:4.",
    "dDOUBLE THORN.eWYNNbCAPITAL LETTER MIDDLE SCOTS SbSMALL:4bCAPITAL LETTER SIGMOID SbSMALL:3.",
    ".......................aMODIFIER LETTER CAPITAL CdFdQaLATIN CAPITAL LETTER REVERSED HALF H",
    "bSMALL:4bEPIGRAPHIC LETTER SIDEWAYS IaMODIFIER LETTER CAPITAL H WITH STROKE",
    "cSMALL LIGATURE OEaLATIN LETTER SMALL CAPITAL TURNED MbEPIGRAPHIC LETTER REVERSED FeP",
    "dINVERTED MdI LONGAdARCHAIC MaSYLOTI NAGRI LETTER AdIcSIGN DVISVARAcLETTER UdEdO",
    "cSIGN HASANTAcLETTER KOdKHOdGOdGHOcSIGN ANUSVARAcLETTER COdCHOdJOdJHOdTTOdTTHOdDDOdDDHOdTO",
    "dTHOdDOdDHOdNOdPOdPHOdBOdBHOdMOdROdLOdRROdSOdHOcVOWEL SIGN AeIeUeEeOOcPOETRY MARK-1+++",
    "cSIGN ALTERNATE HASANTA...aNORTH INDIC FRACTION ONE QUARTEReHALFdTHREE QUARTERS",
    "dONE SIXTEENTHeEIGHTHdTHREE SIXTEENTHScQUARTER MARKcPLACEHOLDER:1cRUPEE:1cQUANTITY:1......",
    "aPHAGS-PA LETTER KAcKHAcGAcNGAcCAcCHAcJAcNYAcTAcTHAcDAcNAcPAcPHAcBAcMAcTSAcTSHAcDZAcWAcZHA",
    "cZAcSMALL AcYAcRAcLAcSHAcSAcHAcAcIcUcEcOcQAcXAcFAcGGAcEEbSUBJOINED LETTER WAdYAbLETTER TTA",
    "cTTHAcDDAcNNAcALTERNATE YAcVOICELESS SHAcVOICED HAcASPIRATED FAbSUBJOINED LETTER RA",
    "bSUPERFIXED:2bLETTER CANDRABINDUbSINGLE HEAD MARKbDOUBLE:2bMARK SHADcDOUBLE:1........",
    "aSAURASHTRA SIGN ANUSVARAcVISARGAbLETTER AcAAcIcIIcUcUUcVOCALIC RdRRdLdLLcEcEEcAIcOcOOcAU",
    "cKAcKHAcGAcGHAcNGAcCAcCHAcJAcJHAcNYAcTTAcTTHAcDDAcDDHAcNNAcTAcTHAcDAcDHAcNAcPAcPHAcBAcBHA",
    "cMAcYAcRAcLAcVAcSHAcSSAcSAcHAcLLAbCONSONANT SIGN HAARUbVOWEL SIGN AAdIdIIdUdUUdVOCALIC ReRR",
    "eLeLLdEdEEdAIdOdOOdAUbSIGN VIRAMAcCANDRABINDU........bDANDAbDOUBLE:1bDIGIT ZEROcONEcTWO",
    "cTHREEcFOURcFIVEcSIXcSEVENcEIGHTcNINE......aCOMBINING DEVANAGARI DIGIT ZEROdONEdTWOdTHREE",
    "dFOURdFIVEdSIXdSEVENdEIGHTdNINEcLETTER AdUdKAdNAdPAdRAdVIcSIGN AVAGRAHA",
    "aDEVANAGARI SIGN SPACING CANDRABINDUcCANDRABINDU VIRAMAcDOUBLE:2cCANDRABINDU TWOdTHREE",
    "dAVAGRAHAcPUSHPIKAbGAP FILLERbCARETbHEADSTROKEbSIGN SIDDHAMbJAIN OMbLETTER AYbVOWEL SIGN:1",
    "aKAYAH LI DIGIT ZEROdONEdTWOdTHREEdFOURdFIVEdSIXdSEVENdEIGHTdNINEcLETTER KAdKHAdGAdNGAdSA",
    "dSHAdZAdNYAdTAdHTAdNAdPAdPHAdMAdDAdBAdRAdYAdLAdWAdTHAdHAdVAdCAdAdOEdIdOOcVOWEL UEdEdUdEEdO",
    "cTONE PLOPHUdCALYAePLOPHUcSIGN CWIdSHYAaREJANG LETTER KAcGAcNGAcTAcDAcNAcPAcBAcMAcCAcJAcNYA",
    "cSAcRAcLAcYAcWAcHAcMBAcNGGAcNDAcNYJAcAbVOWEL SIGN IdUdEdAIdOdAUdEUdEAbCONSONANT SIGN NGdNdR",
    "dHbVIRAMA...........bSECTION MARKaHANGUL CHOSEONG TIKEUT-MIEUMcTIKEUT-PIEUPcTIKEUT-SIOS",
    "cTIKEUT-CIEUCcRIEUL-KIYEOKcRIEUL-SSANGKIYEOKcRIEUL-TIKEUTcRIEUL-SSANGTIKEUTcRIEUL-MIEUM",
    "cRIEUL-PIEUPcRIEUL-SSANGPIEUPcRIEUL-KAPYEOUNPIEUPcRIEUL-SIOScRIEUL-CIEUCcRIEUL-KHIEUKH",
    "cMIEUM-KIYEOKcMIEUM-TIKEUTcMIEUM-SIOScPIEUP-SIOS-THIEUTHcPIEUP-KHIEUKHcPIEUP-HIEUH",
    "cSSANGSIOS-PIEUPcIEUNG-RIEULcIEUNG-HIEUHcSSANGCIEUC-HIEUHcSSANGTHIEUTHcPHIEUPH-HIEUH",
    "cHIEUH-SIOScSSANGYEORINHIEUH...aJAVANESE SIGN PANYANGGAcCECAKcLAYARcWIGNYANbLETTER AcI KAWI",
    "dcIIcUcPA CEREKcNGA LELETeRASWADIcEcAIcOcKAdSASAKdMURDAcGAdMURDAcNGAcCAdMURDAcJAcNYA MURDA",
    "cJA MAHAPRANAcNYAcTTAdMAHAPRANAcDDAdMAHAPRANAcNA MURDAcTAdMURDAcDAdMAHAPRANAcNAcPAdMURDAcBA",
    "dMURDAcMAcYAcRAdAGUNGcLAcWAcSA MURDAdMAHAPRANAdcHAbSIGN CECAK TELUbVOWEL SIGN TARUNGdTOLONG",
    "dWULUeMELIKdSUKUeMENDUTdTALINGdDIRGA MUREdPEPETbCONSONANT SIGN KERETdPENGKALdCAKRAbPANGKON",
    "bLEFT RERENGGANbRIGHT:1bPADA ANDAPcMADYAcLUHURcWINDUcPANGKATcLINGSAcLUNGSIcADEGdADEG",
    "cPISELEHbTURNED:2.bPANGRANGKEPbDIGIT ZEROcONEcTWOcTHREEcFOURcFIVEcSIXcSEVENcEIGHTcNINE....",
    "bPADA TIRTA TUMETEScISEN-ISENaMYANMAR LETTER SHAN GHAdCHAdJHAdNNAdBHAbSIGN SHAN SAW",
    "bMODIFIER LETTER SHAN REDUPLICATIONbLETTER TAI LAING NYAeFAeGAeGHAeJAeJHAeDDAeDDHAeNNA",
    "bTAI LAING DIGIT ZEROeONEeTWOeTHREEeFOUReFIVEeSIXeSEVENeEIGHTeNINEbLETTER TAI LAING LLAeDA",
    "eDHAeBAeBHA.aCHAM LETTER AcIcUcEcAIcOcKAcKHAcGAcGHAcNGUEcNGAcCHAcCHHAcJAcJHAcNHUEcNHAcNHJA",
    "cTAcTHAcDAcDHAcNUEcNAcDDAcPAcPPAcPHAcBAcBHAcMUEcMAcBBAcYAcRAcLAcVAcSSAcSAcHAbVOWEL SIGN AA",
    "dIdIIdEIdUdOEdOdAIdAUdUEbCONSONANT SIGN YAdRAdLAdWA.........bLETTER FINAL KdGdNG",
    "bCONSONANT SIGN:2bLETTER FINAL CHdTdNdPdYdRdLdSSbCONSONANT SIGN FINAL MeH..bDIGIT ZEROcONE",
    "cTWOcTHREEcFOURcFIVEcSIXcSEVENcEIGHTcNINE..bPUNCTUATION SPIRALcDANDAcDOUBLE:1cTRIPLE:1",
    "aMYANMAR LETTER KHAMTI GAdCAdCHAdJAdJHAdNYAdTTAdTTHAdDDAdDDHAdDHAdNAdSAdHAdHHAdFA",
    "bMODIFIER LETTER KHAMTI REDUPLICATIONbLETTER KHAMTI XAdZAdRAbLOGOGRAM KHAMTI OAYdQNdHM",
    "bSYMBOL AITON EXCLAMATIONdONEdTWObLETTER AITON RAbSIGN PAO KAREN TONEcTAI LAING TONE-2",
    "eTONE-5bLETTER SHWE PALAUNG CHAeSHAaTAI VIET LETTER LOW KOdHIGH:1dLOW KHOdHIGH:1dLOW KHHO",
    "dHIGH:1dLOW GOdHIGH:1dLOW NGOdHIGH:1dLOW COdHIGH:1dLOW CHOdHIGH:1dLOW SOdHIGH:1dLOW NYO",
    "dHIGH:1dLOW DOdHIGH:1dLOW TOdHIGH:1dLOW THOdHIGH:1dLOW NOdHIGH:1dLOW BOdHIGH:1dLOW PO",
    "dHIGH:1dLOW PHOdHIGH:1dLOW FOdHIGH:1dLOW MOdHIGH:1dLOW YOdHIGH:1dLOW ROdHIGH:1dLOW LO",
    "dHIGH:1dLOW VOdHIGH:1dLOW HOdHIGH:1dLOW OdHIGH OcMAI KANGcVOWEL AAdIdUEdUdEdOcMAI KHIT",
    "cVOWEL IAdUEAdUAdAUEdAYdANdAMcTONE MAI EKeNUENGeTHOeSONG........................cSYMBOL KON",
    "dNUENGdSAMdHO HOIdKOI KOIaMEETEI MAYEK LETTER EdOdCHAdNYAdTTAdTTHAdDDAdDDHAdNNAdSHAdSSA",
    "cVOWEL SIGN IIeUUeAAIeAUeAAUcCHEIKHANcAHANG KHUDAMcANJIcSYLLABLE REPETITION MARKcWORD:2",
    "cVOWEL SIGN VISARGAcVIRAMA..........aETHIOPIC SYLLABLE TTHUcTTHIcTTHAAcTTHEEcTTHEcTTHO..",
    "cDDHUcDDHIcDDHAAcDDHEEcDDHEcDDHO..cDZUcDZIcDZAAcDZEEcDZEcDZO.........cCCHHAcCCHHUcCCHHI",
    "cCCHHAAcCCHHEEcCCHHEcCCHHO.cBBAcBBUcBBIcBBAAcBBEEcBBEcBBO.aLATIN SMALL LETTER BARRED ALPHA",
    "dA REVERSED-SCHWAdBLACKLETTER EdBARRED EdE WITH FLOURISHdLENIS FdSCRIPT G WITH CROSSED-TAIL",
    "dL WITH INVERTED LAZY SfDOUBLE MIDDLE TILDEfMIDDLE RINGdM WITH CROSSED-TAILdN:2dENG:2",
    "dBLACKLETTER OfWITH STROKEdOPEN:3dINVERTED OEdTURNED OE WITH STROKEgHORIZONTAL:1eO OPEN-O",
    "gWITH STROKEdSTIRRUP RbLETTER SMALL CAPITAL R WITH RIGHT LEGbSMALL LETTER R WITHOUT HANDLE",
    "dDOUBLE RdR WITH CROSSED-TAILdDOUBLE:3dSCRIPT RfWITH RINGdBASELINE ESH",
    "dU WITH SHORT RIGHT LEGeBAR:4dUIdTURNED:1dU WITH LEFT HOOKdCHIeWITH LOW RIGHT RING",
    "gLEFT SERIFdX WITH LOW RIGHT RINGfLONG LEFT LEGiAND LOW RIGHT RINGiWITH SERIF",
    "dY WITH SHORT RIGHT LEGaMODIFIER BREVE WITH INVERTED BREVEbLETTER SMALL HENG",
    "dL WITH INVERTED LAZY SfMIDDLE TILDEdU WITH LEFT HOOKaLATIN SMALL LETTER SAKHA YAT",
    "dIOTIFIED EdOPEN OEdUOdINVERTED ALPHAaGREEK LETTER SMALL CAPITAL OMEGA",
    "aLATIN SMALL LETTER DZ DIGRAPH WITH RETROFLEX HOOKdTS:4dTURNED R WITH MIDDLE TILDE",
    "aMODIFIER LETTER SMALL TURNED WcLEFT TACKcRIGHT:1....aCHEROKEE SMALL LETTER AdEdIdOdUdVdGA",
    "dKAdGEdGIdGOdGUdGVdHAdHEdHIdHOdHUdHVdLAdLEdLIdLOdLUdLVdMAdMEdMIdMOdMUdNAdHNAdNAHdNEdNIdNO",
    "dNUdNVdQUAdQUEdQUIdQUOdQUUdQUVdSAdSdSEdSIdSOdSUdSVdDAdTAdDEdTEdDIdTIdDOdDUdDVdDLAdTLAdTLE",
    "dTLIdTLOdTLUdTLVdTSAdTSEdTSIdTSOdTSUdTSVdWAdWEdWIdWOdWUdWVdYAaMEETEI MAYEK LETTER KOKdSAM",
    "dLAIdMITdPAdNAdCHILdTILdKHOUdNGOUdTHOUdWAIdYANGdHUKdUNdIdPHAMdATIYAdGOKdJHAMdRAIdBAdJILdDIL",
    "dGHOUdDHOUdBHAMdKOK LONSUMdLAI:1dMIT:1dPA:1dNA:1dTIL:1dNGOU:1dI:1cVOWEL SIGN ONAPeINAPeANAP",
    "eYENAPeSOUNAPeUNAPeCHEINAPeNUNGcCHEIKHEIcLUM IYEKcAPUN:1..cDIGIT ZEROdONEdTWOdTHREEdFOUR",
    "dFIVEdSIXdSEVENdEIGHTdNINE"]),
  (55216, [
    "aHANGUL JUNGSEONG O-YEOcO-O-IcYO-AcYO-AEcYO-EOcU-YEOcU-I-IcYU-AEcYU-OcEU-AcEU-EOcEU-EcEU-O",
    "cI-YA-OcI-YAEcI-YEOcI-YEcI-O-IcI-YOcI-YUcI-IcARAEA-AcARAEA-E....bJONGSEONG NIEUN-RIEUL",
    "cNIEUN-CHIEUCHcSSANGTIKEUTcSSANGTIKEUT-PIEUPcTIKEUT-PIEUPcTIKEUT-SIOScTIKEUT-SIOS-KIYEOK",
    "cTIKEUT-CIEUCcTIKEUT-CHIEUCHcTIKEUT-THIEUTHcRIEUL-SSANGKIYEOKcRIEUL-KIYEOK-HIEUH",
    "cSSANGRIEUL-KHIEUKHcRIEUL-MIEUM-HIEUHcRIEUL-PIEUP-TIKEUTcRIEUL-PIEUP-PHIEUPHcRIEUL-YESIEUNG",
    "cRIEUL-YEORINHIEUH-HIEUHcKAPYEOUNRIEULcMIEUM-NIEUNcMIEUM-SSANGNIEUNcSSANGMIEUM",
    "cMIEUM-PIEUP-SIOScMIEUM-CIEUCcPIEUP-TIKEUTcPIEUP-RIEUL-PHIEUPHcPIEUP-MIEUMcSSANGPIEUP",
    "cPIEUP-SIOS-TIKEUTcPIEUP-CIEUCcPIEUP-CHIEUCHcSIOS-MIEUMcSIOS-KAPYEOUNPIEUPcSSANGSIOS-KIYEOK",
    "cSSANGSIOS-TIKEUTcSIOS-PANSIOScSIOS-CIEUCcSIOS-CHIEUCHcSIOS-THIEUTHcSIOS-HIEUH",
    "cPANSIOS-PIEUPcPANSIOS-KAPYEOUNPIEUPcYESIEUNG-MIEUMcYESIEUNG-HIEUHcCIEUC-PIEUP",
    "cCIEUC-SSANGPIEUPcSSANGCIEUCcPHIEUPH-SIOScPHIEUPH-THIEUTH"]),
  (64256, [
    "aLATIN SMALL LIGATURE FFdFIdFLdFFIdFFLdLONG S TdST............",
    "aARMENIAN SMALL LIGATURE MEN NOWeECHeINIdVEW NOWdMEN XEH.....aHEBREW LETTER YOD WITH HIRIQ",
    "bPOINT JUDEO-SPANISH VARIKAbLIGATURE YIDDISH YOD YOD PATAHbLETTER ALTERNATIVE AYIN",
    "cWIDE ALEFdDALETdHEdKAFdLAMEDdFINAL MEMdRESHdTAVcALTERNATIVE PLUS SIGNcSHIN WITH SHIN DOT",
    "eSIN:1eDAGESH AND SHIN:1gSIN:1cALEF WITH PATAHeQAMATSeMAPIQcBET WITH DAGESHcGIMEL:2cDALET:2",
    "cHE WITH MAPIQcVAV WITH DAGESHcZAYIN:2.cTET:2cYOD:2cFINAL KAF:2c:3cLAMED:2.cMEM:2.cNUN:2",
    "cSAMEKH:2.cFINAL PE:2c:3.cTSADI:2cQOF:2cRESH:2cSHIN:2cTAV:2cVAV WITH HOLAMcBET WITH RAFE",
    "cKAF:2cPE:2bLIGATURE ALEF LAMEDaARABIC LETTER ALEF WASLA ISOLATED FORMeFINAL:1",
    "cBEEH ISOLATED:1dFINAL:1dINITIAL:1dMEDIAL:1cPEH ISOLATED:1dFINAL:1dINITIAL:1dMEDIAL:1",
    "cBEHEH ISOLATED:1dFINAL:1dINITIAL:1dMEDIAL:1cTTEHEH ISOLATED:1dFINAL:1dINITIAL:1dMEDIAL:1",
    "cTEHEH ISOLATED:1dFINAL:1dINITIAL:1dMEDIAL:1cTTEH ISOLATED:1dFINAL:1dINITIAL:1dMEDIAL:1",
    "cVEH ISOLATED:1dFINAL:1dINITIAL:1dMEDIAL:1cPEHEH ISOLATED:1dFINAL:1dINITIAL:1dMEDIAL:1",
    "cDYEH ISOLATED:1dFINAL:1dINITIAL:1dMEDIAL:1cNYEH ISOLATED:1dFINAL:1dINITIAL:1dMEDIAL:1",
    "cTCHEH ISOLATED:1dFINAL:1dINITIAL:1dMEDIAL:1cTCHEHEH ISOLATED:1dFINAL:1dINITIAL:1dMEDIAL:1",
    "cDDAHAL ISOLATED:1dFINAL:1cDAHAL ISOLATED:1dFINAL:1cDUL ISOLATED:1dFINAL:1cDDAL ISOLATED:1",
    "dFINAL:1cJEH ISOLATED:1dFINAL:1cRREH ISOLATED:1dFINAL:1cKEHEH ISOLATED:1dFINAL:1dINITIAL:1",
    "dMEDIAL:1cGAF ISOLATED:1dFINAL:1dINITIAL:1dMEDIAL:1cGUEH ISOLATED:1dFINAL:1dINITIAL:1",
    "dMEDIAL:1cNGOEH ISOLATED:1dFINAL:1dINITIAL:1dMEDIAL:1cNOON GHUNNA ISOLATED:1eFINAL:1",
    "cRNOON ISOLATED:1dFINAL:1dINITIAL:1dMEDIAL:1cHEH WITH YEH ABOVE ISOLATED:1gFINAL:1",
    "dGOAL ISOLATED:1eFINAL:1eINITIAL:1eMEDIAL:1dDOACHASHMEE ISOLATED:1eFINAL:1eINITIAL:1",
    "eMEDIAL:1cYEH BARREE ISOLATED:1eFINAL:1eWITH HAMZA ABOVE ISOLATED:1hFINAL:1",
    "bSYMBOL DOT ABOVEdBELOWcTWO DOTS ABOVEeBELOWcTHREE DOTS ABOVEeBELOW",
    "ePOINTING DOWNWARDS ABOVEgBELOWcFOUR DOTS ABOVEeBELOWcDOUBLE VERTICAL BAR:1",
    "cTWO DOTS VERTICALLY ABOVEfBELOWcRINGcSMALL TAH ABOVEeBELOWcWASLA ABOVE................",
    "bLETTER NG ISOLATED FORMdFINAL:1dINITIAL:1dMEDIAL:1cU ISOLATED:1dFINAL:1cOE ISOLATED:1",
    "dFINAL:1cYU ISOLATED:1dFINAL:1cU WITH HAMZA ABOVE ISOLATED:1cVE:2dFINAL:1",
    "cKIRGHIZ OE ISOLATED:1eFINAL:1dYU ISOLATED:1eFINAL:1cE ISOLATED:1dFINAL:1dINITIAL:1",
    "dMEDIAL:1cUIGHUR KAZAKH KIRGHIZ ALEF MAKSURA INITIAL:1hMEDIAL:1",
    "bLIGATURE YEH WITH HAMZA ABOVE WITH ALEF ISOLATED:1iFINAL:1hAE ISOLATED:1iFINAL:1",
    "hWAW ISOLATED:1iFINAL:1hU ISOLATED:1iFINAL:1hOE ISOLATED:1iFINAL:1hYU ISOLATED:1iFINAL:1",
    "hE ISOLATED:1iFINAL:1iINITIAL:1",
    "cUIGHUR KIRGHIZ YEH WITH HAMZA ABOVE WITH ALEF MAKSURA ISOLATED:1lFINAL:1lINITIAL:1",
    "bLETTER FARSI YEH ISOLATED:1eFINAL:1eINITIAL:1eMEDIAL:1",
    "bLIGATURE YEH WITH HAMZA ABOVE WITH JEEM ISOLATED:1hHAH:2hMEEM:2hALEF MAKSURA:2hYEH:2",
    "cBEH WITH JEEM:2eHAH:2eKHAH:2eMEEM:2eALEF MAKSURA:2eYEH:2cTEH WITH JEEM:2eHAH:2eKHAH:2",
    "eMEEM:2eALEF MAKSURA:2eYEH:2cTHEH WITH JEEM:2eMEEM:2eALEF MAKSURA:2eYEH:2cJEEM WITH HAH:2",
    "eMEEM:2cHAH WITH JEEM:2eMEEM:2cKHAH WITH JEEM:2eHAH:2eMEEM:2cSEEN WITH JEEM:2eHAH:2eKHAH:2",
    "eMEEM:2cSAD WITH HAH:2eMEEM:2cDAD WITH JEEM:2eHAH:2eKHAH:2eMEEM:2cTAH WITH HAH:2eMEEM:2",
    "cZAH:4cAIN WITH JEEM:2eMEEM:2cGHAIN WITH JEEM:2eMEEM:2cFEH WITH JEEM:2eHAH:2eKHAH:2eMEEM:2",
    "eALEF MAKSURA:2eYEH:2cQAF WITH HAH:2eMEEM:2eALEF MAKSURA:2eYEH:2cKAF WITH ALEF:2eJEEM:2",
    "eHAH:2eKHAH:2eLAM:2eMEEM:2eALEF MAKSURA:2eYEH:2cLAM WITH JEEM:2eHAH:2eKHAH:2eMEEM:2",
    "eALEF MAKSURA:2eYEH:2cMEEM WITH JEEM:2eHAH:2eKHAH:2eMEEM:2eALEF MAKSURA:2eYEH:2",
    "cNOON WITH JEEM:2eHAH:2eKHAH:2eMEEM:2eALEF MAKSURA:2eYEH:2cHEH WITH JEEM:2eMEEM:2",
    "eALEF MAKSURA:2eYEH:2cYEH WITH JEEM:2eHAH:2eKHAH:2eMEEM:2eALEF MAKSURA:2eYEH:2",
    "cTHAL WITH SUPERSCRIPT ALEF:2cREH:5cALEF MAKSURA:5cSHADDA WITH DAMMATAN:2eKASRATAN:2",
    "eFATHA:2eDAMMA:2eKASRA:2eSUPERSCRIPT ALEF:2cYEH WITH HAMZA ABOVE WITH REH FINAL:1hZAIN:2",
    "hMEEM:2hNOON:2hALEF MAKSURA:2hYEH:2cBEH WITH REH:2eZAIN:2eMEEM:2eNOON:2eALEF MAKSURA:2",
    "eYEH:2cTEH WITH REH:2eZAIN:2eMEEM:2eNOON:2eALEF MAKSURA:2eYEH:2cTHEH WITH REH:2eZAIN:2",
    "eMEEM:2eNOON:2eALEF MAKSURA:2eYEH:2cFEH WITH ALEF MAKSURA:2eYEH:2cQAF WITH ALEF MAKSURA:2",
    "eYEH:2cKAF WITH ALEF:2eLAM:2eMEEM:2eALEF MAKSURA:2eYEH:2cLAM WITH MEEM:2eALEF MAKSURA:2",
    "eYEH:2cMEEM WITH ALEF:2eMEEM:2cNOON WITH REH:2eZAIN:2eMEEM:2eNOON:2eALEF MAKSURA:2eYEH:2",
    "cALEF MAKSURA WITH SUPERSCRIPT ALEF:2cYEH WITH REH:2eZAIN:2eMEEM:2eNOON:2eALEF MAKSURA:2",
    "eYEH:2eHAMZA ABOVE WITH JEEM INITIAL:1hHAH:2hKHAH:2hMEEM:2hHEH:2cBEH WITH JEEM:2eHAH:2",
    "eKHAH:2eMEEM:2eHEH:2cTEH WITH JEEM:2eHAH:2eKHAH:2eMEEM:2eHEH:2cTHEH WITH MEEM:2",
    "cJEEM WITH HAH:2eMEEM:2cHAH WITH JEEM:2eMEEM:2cKHAH WITH JEEM:2eMEEM:2cSEEN WITH JEEM:2",
    "eHAH:2eKHAH:2eMEEM:2cSAD WITH HAH:2eKHAH:2eMEEM:2cDAD WITH JEEM:2eHAH:2eKHAH:2eMEEM:2",
    "cTAH WITH HAH:2cZAH WITH MEEM:2cAIN WITH JEEM:2eMEEM:2cGHAIN WITH JEEM:2eMEEM:2",
    "cFEH WITH JEEM:2eHAH:2eKHAH:2eMEEM:2cQAF WITH HAH:2eMEEM:2cKAF WITH JEEM:2eHAH:2eKHAH:2",
    "eLAM:2eMEEM:2cLAM WITH JEEM:2eHAH:2eKHAH:2eMEEM:2eHEH:2cMEEM WITH JEEM:2eHAH:2eKHAH:2",
    "eMEEM:2cNOON WITH JEEM:2eHAH:2eKHAH:2eMEEM:2eHEH:2cHEH WITH JEEM:2eMEEM:2",
    "eSUPERSCRIPT ALEF:2cYEH WITH JEEM:2eHAH:2eKHAH:2eMEEM:2eHEH:2",
    "eHAMZA ABOVE WITH MEEM MEDIAL:1hHEH:2cBEH WITH MEEM:2eHEH:2cTEH WITH MEEM:2eHEH:2",
    "cTHEH WITH MEEM:2eHEH:2cSEEN WITH MEEM:2eHEH:2cSHEEN WITH MEEM:2eHEH:2cKAF WITH LAM:2",
    "eMEEM:2cLAM:4cNOON:4eHEH:2cYEH WITH MEEM:2eHEH:2cSHADDA WITH FATHA:2eDAMMA:2eKASRA:2",
    "cTAH WITH ALEF MAKSURA ISOLATED:1eYEH:2cAIN WITH ALEF MAKSURA:2eYEH:2",
    "cGHAIN WITH ALEF MAKSURA:2eYEH:2cSEEN WITH ALEF MAKSURA:2eYEH:2cSHEEN WITH ALEF MAKSURA:2",
    "eYEH:2cHAH WITH ALEF MAKSURA:2eYEH:2cJEEM WITH ALEF MAKSURA:2eYEH:2",
    "cKHAH WITH ALEF MAKSURA:2eYEH:2cSAD WITH ALEF MAKSURA:2eYEH:2cDAD WITH ALEF MAKSURA:2eYEH:2",
    "cSHEEN WITH JEEM:2eHAH:2eKHAH:2eMEEM:2eREH:2cSEEN:4cSAD:4cDAD:4",
    "cTAH WITH ALEF MAKSURA FINAL:1eYEH:2cAIN WITH ALEF MAKSURA:2eYEH:2",
    "cGHAIN WITH ALEF MAKSURA:2eYEH:2cSEEN WITH ALEF MAKSURA:2eYEH:2cSHEEN WITH ALEF MAKSURA:2",
    "eYEH:2cHAH WITH ALEF MAKSURA:2eYEH:2cJEEM WITH ALEF MAKSURA:2eYEH:2",
    "cKHAH WITH ALEF MAKSURA:2eYEH:2cSAD WITH ALEF MAKSURA:2eYEH:2cDAD WITH ALEF MAKSURA:2eYEH:2",
    "cSHEEN WITH JEEM:2eHAH:2eKHAH:2eMEEM:2eREH:2cSEEN:4cSAD:4cDAD:4cSHEEN WITH JEEM INITIAL:1",
    "eHAH:2eKHAH:2eMEEM:2cSEEN WITH HEH:2cSHEEN:4cTAH WITH MEEM:2cSEEN WITH JEEM MEDIAL:1eHAH:2",
    "eKHAH:2cSHEEN WITH JEEM:2eHAH:2eKHAH:2cTAH WITH MEEM:2cZAH:4cALEF WITH FATHATAN FINAL:1",
    "fISOLATED:1aORNATE LEFT PARENTHESISbRIGHT:1aARABIC LIGATURE RAHIMAHU ALLAAH",
    "cRADI ALLAAHU ANHeANHAAeANHUMeANHUMAAeANHUNNAcSALLALLAAHU ALAYHI WA-AALIHcALAYHI AS-SALAAM",
    "cALAYHIM:1cALAYHIMAA:1cALAYHI AS-SALAATU WAS-SALAAMcQUDDISA SIRRAH",
    "cSALLALLAHU ALAYHI WAAALIHEE WA-SALLAMcALAYHAA AS-SALAAMcTABAARAKA WA-TAAALAA",
    "cRAHIMAHUM ALLAAHcTEH WITH JEEM WITH MEEM INITIAL FORMeHAH WITH JEEM FINAL:1hINITIAL:1",
    "gMEEM:2eKHAH:4eMEEM WITH JEEM:2gHAH:2gKHAH:2cJEEM WITH MEEM WITH HAH FINAL:1hINITIAL:1",
    "cHAH WITH MEEM WITH YEH FINAL:1gALEF MAKSURA:2cSEEN WITH HAH WITH JEEM INITIAL:1",
    "eJEEM WITH HAH:2gALEF MAKSURA FINAL:1eMEEM WITH HAH:2hINITIAL:1gJEEM:2gMEEM FINAL:1",
    "hINITIAL:1cSAD WITH HAH WITH HAH FINAL:1hINITIAL:1eMEEM WITH MEEM FINAL:1cSHEEN WITH HAH:4",
    "hINITIAL:1eJEEM WITH YEH FINAL:1eMEEM WITH KHAH:2hINITIAL:1gMEEM FINAL:1hINITIAL:1",
    "cDAD WITH HAH WITH ALEF MAKSURA FINAL:1eKHAH WITH MEEM:2hINITIAL:1",
    "cTAH WITH MEEM WITH HAH FINAL:1hINITIAL:1gMEEM:2gYEH FINAL:1cAIN WITH JEEM WITH MEEM:2",
    "eMEEM:4hINITIAL:1gALEF MAKSURA FINAL:1cGHAIN WITH MEEM WITH MEEM:2gYEH:2gALEF MAKSURA:2",
    "cFEH WITH KHAH WITH MEEM:2hINITIAL:1cQAF WITH MEEM WITH HAH FINAL:1gMEEM:2cLAM WITH HAH:4",
    "gYEH:2gALEF MAKSURA:2eJEEM WITH JEEM INITIAL:1hFINAL:1eKHAH WITH MEEM:2hINITIAL:1",
    "eMEEM WITH HAH FINAL:1hINITIAL:1cMEEM WITH HAH WITH JEEM:2gMEEM:2gYEH FINAL:1",
    "eJEEM WITH HAH INITIAL:1gMEEM:2eKHAH WITH JEEM:2gMEEM:2..eJEEM WITH KHAH:2",
    "cHEH WITH MEEM WITH JEEM:2gMEEM:2cNOON WITH HAH:4gALEF MAKSURA FINAL:1eJEEM WITH MEEM:2",
    "hINITIAL:1gALEF MAKSURA FINAL:1eMEEM WITH YEH:2gALEF MAKSURA:2cYEH WITH MEEM WITH MEEM:2",
    "hINITIAL:1cBEH WITH KHAH WITH YEH FINAL:1cTEH WITH JEEM:4gALEF MAKSURA:2eKHAH WITH YEH:2",
    "gALEF MAKSURA:2eMEEM WITH YEH:2gALEF MAKSURA:2cJEEM WITH MEEM WITH YEH:2",
    "eHAH WITH ALEF MAKSURA:2eMEEM:5cSEEN WITH KHAH:5cSAD WITH HAH WITH YEH:2cSHEEN:6cDAD:6",
    "cLAM WITH JEEM:4eMEEM:4cYEH WITH HAH:4eJEEM:4eMEEM:4cMEEM:6cQAF:6cNOON WITH HAH:4",
    "cQAF WITH MEEM WITH HAH INITIAL:1cLAM WITH HAH WITH MEEM:2cAIN WITH MEEM WITH YEH FINAL:1",
    "cKAF:6cNOON WITH JEEM WITH HAH INITIAL:1cMEEM WITH KHAH WITH YEH FINAL:1",
    "cLAM WITH JEEM WITH MEEM INITIAL:1cKAF WITH MEEM WITH MEEM FINAL:1cLAM WITH JEEM:4",
    "cNOON WITH JEEM WITH HAH:2cJEEM WITH HAH WITH YEH:2cHAH WITH JEEM:4cMEEM:6cFEH WITH MEEM:4",
    "cBEH WITH HAH:4cKAF WITH MEEM WITH MEEM INITIAL:1cAIN WITH JEEM:4cSAD WITH MEEM:4",
    "cSEEN WITH KHAH WITH YEH FINAL:1cNOON WITH JEEM:4.......cSALAAMUHU ALAYNAA.................",
    "...............cSALLA USED AS KORANIC STOP SIGN ISOLATED FORMcQALA:7cALLAH:2cAKBAR:2",
    "cMOHAMMAD:2cSALAM:2cRASOUL:2cALAYHE:2cWASALLAM:2cSALLA:2cSALLALLAHOU ALAYHE WASALLAM",
    "cJALLAJALALOUHOUaRIAL SIGNaARABIC LIGATURE BISMILLAH AR-RAHMAN AR-RAHEEM",
    "cSUBHAANAHU WA TAAALAAcAZZA WA JALLaVARIATION SELECTOR-1+++++++++++++++",
    "aPRESENTATION FORM FOR VERTICAL COMMAeIDEOGRAPHIC:1fFULL STOPeCOLONeSEMICOLON",
    "eEXCLAMATION MARKeQUESTION:1eLEFT WHITE LENTICULAR BRACKETeRIGHT WHITE LENTICULAR BRAKCET",
    "eHORIZONTAL ELLIPSIS......aCOMBINING LIGATURE LEFT HALFcRIGHT:1bDOUBLE TILDE LEFT:1dRIGHT:1",
    "bMACRON LEFT:1cRIGHT:1bCONJOINING MACRONbLIGATURE LEFT HALF BELOWcRIGHT:2bTILDE LEFT:2",
    "cRIGHT:2bMACRON LEFT:2cRIGHT:2bCONJOINING MACRON:1bCYRILLIC TITLO LEFT HALFdRIGHT:1",
    "aPRESENTATION FORM FOR VERTICAL TWO DOT LEADEReEM DASHeEN:1eLOW LINEeWAVY:2",
    "eLEFT PARENTHESISeRIGHT:1eLEFT CURLY BRACKETeRIGHT:2eLEFT TORTOISE SHELL:1eRIGHT:3",
    "eLEFT BLACK LENTICULAR:1eRIGHT:3eLEFT DOUBLE ANGLE:1eRIGHT:3eLEFT:2eRIGHT:2eLEFT CORNER:1",
    "eRIGHT:2eLEFT WHITE:2eRIGHT:3aSESAME DOTaWHITE:2",
    "aPRESENTATION FORM FOR VERTICAL LEFT SQUARE BRACKETeRIGHT:2aDASHED OVERLINEaCENTRELINE:1",
    "aWAVY:1aDOUBLE:2aDASHED LOW LINEaCENTRELINE:2aWAVY:2aSMALL COMMAbIDEOGRAPHIC:1bFULL STOP.",
    "bSEMICOLONbCOLONbQUESTION MARKbEXCLAMATION:1bEM DASHbLEFT PARENTHESISbRIGHT:1",
    "bLEFT CURLY BRACKETbRIGHT:2bLEFT TORTOISE SHELL:1bRIGHT:3bNUMBER SIGNbAMPERSANDbASTERISK",
    "bPLUS SIGNbHYPHEN-MINUSbLESS-THAN SIGNbGREATER-THAN:1bEQUALS:1.bREVERSE SOLIDUSbDOLLAR SIGN",
    "bPERCENT:1bCOMMERCIAL AT....aARABIC FATHATAN ISOLATED FORMbTATWEEL WITH FATHATAN ABOVE",
    "bDAMMATAN ISOLATED FORMbTAIL FRAGMENTbKASRATAN ISOLATED FORM.bFATHA:2cMEDIAL:1",
    "bDAMMA ISOLATED:1cMEDIAL:1bKASRA ISOLATED:1cMEDIAL:1bSHADDA ISOLATED:1cMEDIAL:1",
    "bSUKUN ISOLATED:1cMEDIAL:1bLETTER HAMZA ISOLATED:1cALEF WITH MADDA ABOVE:2gFINAL:1",
    "eHAMZA ABOVE ISOLATED:1gFINAL:1cWAW WITH HAMZA ABOVE ISOLATED:1gFINAL:1",
    "cALEF WITH HAMZA BELOW ISOLATED:1gFINAL:1cYEH WITH HAMZA ABOVE ISOLATED:1gFINAL:1gINITIAL:1",
    "gMEDIAL:1cALEF ISOLATED:1dFINAL:1cBEH ISOLATED:1dFINAL:1dINITIAL:1dMEDIAL:1",
    "cTEH MARBUTA ISOLATED:1eFINAL:1dISOLATED:1dFINAL:1dINITIAL:1dMEDIAL:1cTHEH ISOLATED:1",
    "dFINAL:1dINITIAL:1dMEDIAL:1cJEEM ISOLATED:1dFINAL:1dINITIAL:1dMEDIAL:1cHAH ISOLATED:1",
    "dFINAL:1dINITIAL:1dMEDIAL:1cKHAH ISOLATED:1dFINAL:1dINITIAL:1dMEDIAL:1cDAL ISOLATED:1",
    "dFINAL:1cTHAL ISOLATED:1dFINAL:1cREH ISOLATED:1dFINAL:1cZAIN ISOLATED:1dFINAL:1",
    "cSEEN ISOLATED:1dFINAL:1dINITIAL:1dMEDIAL:1cSHEEN ISOLATED:1dFINAL:1dINITIAL:1dMEDIAL:1",
    "cSAD ISOLATED:1dFINAL:1dINITIAL:1dMEDIAL:1cDAD ISOLATED:1dFINAL:1dINITIAL:1dMEDIAL:1",
    "cTAH ISOLATED:1dFINAL:1dINITIAL:1dMEDIAL:1cZAH ISOLATED:1dFINAL:1dINITIAL:1dMEDIAL:1",
    "cAIN ISOLATED:1dFINAL:1dINITIAL:1dMEDIAL:1cGHAIN ISOLATED:1dFINAL:1dINITIAL:1dMEDIAL:1",
    "cFEH ISOLATED:1dFINAL:1dINITIAL:1dMEDIAL:1cQAF ISOLATED:1dFINAL:1dINITIAL:1dMEDIAL:1",
    "cKAF ISOLATED:1dFINAL:1dINITIAL:1dMEDIAL:1cLAM ISOLATED:1dFINAL:1dINITIAL:1dMEDIAL:1",
    "cMEEM ISOLATED:1dFINAL:1dINITIAL:1dMEDIAL:1cNOON ISOLATED:1dFINAL:1dINITIAL:1dMEDIAL:1",
    "cHEH ISOLATED:1dFINAL:1dINITIAL:1dMEDIAL:1cWAW ISOLATED:1dFINAL:1cALEF MAKSURA ISOLATED:1",
    "eFINAL:1cYEH ISOLATED:1dFINAL:1dINITIAL:1dMEDIAL:1",
    "bLIGATURE LAM WITH ALEF WITH MADDA ABOVE ISOLATED:1iFINAL:1gHAMZA ABOVE ISOLATED:1iFINAL:1",
    "hBELOW ISOLATED:1iFINAL:1fISOLATED:1fFINAL:1..aZERO WIDTH NO-BREAK SPACE.",
    "aFULLWIDTH EXCLAMATION MARKbQUOTATION:1bNUMBER SIGNbDOLLAR:1bPERCENT:1bAMPERSANDbAPOSTROPHE",
    "bLEFT PARENTHESISbRIGHT:1bASTERISKbPLUS SIGNbCOMMAbHYPHEN-MINUSbFULL STOPbSOLIDUS",
    "bDIGIT ZEROcONEcTWOcTHREEcFOURcFIVEcSIXcSEVENcEIGHTcNINEbCOLONbSEMICOLONbLESS-THAN SIGN",
    "bEQUALS:1bGREATER-THAN:1bQUESTION MARKbCOMMERCIAL ATbLATIN CAPITAL LETTER AeBeCeDeEeFeGeHeI",
    "eJeKeLeMeNeOePeQeReSeTeUeVeWeXeYeZbLEFT SQUARE BRACKETbREVERSE SOLIDUSbRIGHT SQUARE BRACKET",
    "bCIRCUMFLEX ACCENTbLOW LINEbGRAVE ACCENTbLATIN SMALL LETTER AeBeCeDeEeFeGeHeIeJeKeLeMeNeOeP",
    "eQeReSeTeUeVeWeXeYeZbLEFT CURLY BRACKETbVERTICAL LINEbRIGHT CURLY BRACKETbTILDE",
    "bLEFT WHITE PARENTHESISbRIGHT:2aHALFWIDTH IDEOGRAPHIC FULL STOPbLEFT CORNER BRACKETbRIGHT:2",
    "bIDEOGRAPHIC COMMAbKATAKANA MIDDLE DOTcLETTER WOdSMALL AeIeUeEeOeYAeYUeYOeTU",
    "bKATAKANA-HIRAGANA PROLONGED SOUND MARKbKATAKANA LETTER AdIdUdEdOdKAdKIdKUdKEdKOdSAdSIdSU",
    "dSEdSOdTAdTIdTUdTEdTOdNAdNIdNUdNEdNOdHAdHIdHUdHEdHOdMAdMIdMUdMEdMOdYAdYUdYOdRAdRIdRUdREdRO",
    "dWAdNcVOICED SOUND MARKcSEMI-VOICED:2bHANGUL FILLERcLETTER KIYEOKdSSANGKIYEOKdKIYEOK-SIOS",
    "dNIEUNdNIEUN-CIEUCdNIEUN-HIEUHdTIKEUTdSSANGTIKEUTdRIEULdRIEUL-KIYEOKdRIEUL-MIEUM",
    "dRIEUL-PIEUPdRIEUL-SIOSdRIEUL-THIEUTHdRIEUL-PHIEUPHdRIEUL-HIEUHdMIEUMdPIEUPdSSANGPIEUP",
    "dPIEUP-SIOSdSIOSdSSANGSIOSdIEUNGdCIEUCdSSANGCIEUCdCHIEUCHdKHIEUKHdTHIEUTHdPHIEUPHdHIEUH...",
    "dAdAEdYAdYAEdEOdE..dYEOdYEdOdWAdWAEdOE..dYOdUdWEOdWEdWIdYU..dEUdYIdI...aFULLWIDTH CENT SIGN",
    "bPOUND:1bNOT:1bMACRONbBROKEN BARbYEN SIGNbWON:1.aHALFWIDTH FORMS LIGHT VERTICAL",
    "bLEFTWARDS ARROWbUPWARDS:1bRIGHTWARDS:1bDOWNWARDS:1bBLACK SQUAREbWHITE CIRCLE..........",
    "aINTERLINEAR ANNOTATION ANCHORcSEPARATORcTERMINATORaOBJECT REPLACEMENT CHARACTERa:2"])]

end HttpGateway.Text.CharName
