namespace HttpGateway.Text.CharName

def symbolNames : List (Nat × List String) := [
  (8192, [
    "aEN QUADaEM:1aEN SPACEaEM:1aTHREE-PER-EM:1aFOUR-PER-EM:1aSIX-PER-EM:1aFIGURE:1",
    "aPUNCTUATION:1aTHIN:1aHAIR:1aZERO WIDTH:1cNON-JOINERcJOINERaLEFT-TO-RIGHT MARK",
    "aRIGHT-TO-LEFT:1aHYPHENaNON-BREAKING:1aFIGURE DASHaEN:1aEM:1aHORIZONTAL BAR",
    "aDOUBLE VERTICAL LINEbLOW:1aLEFT SINGLE QUOTATION MARKaRIGHT:3aSINGLE LOW-9:2",
    "bHIGH-REVERSED-9:2aLEFT DOUBLE:2aRIGHT:3aDOUBLE LOW-9:2bHIGH-REVERSED-9:2aDAGGERaDOUBLE:1",
    "aBULLETaTRIANGULAR:1aONE DOT LEADERaTWO:2aHORIZONTAL ELLIPSISaHYPHENATION POINT",
    "aLINE SEPARATORaPARAGRAPH:1aLEFT-TO-RIGHT EMBEDDINGaRIGHT-TO-LEFT:1",
    "aPOP DIRECTIONAL FORMATTINGaLEFT-TO-RIGHT OVERRIDEaRIGHT-TO-LEFT:1aNARROW NO-BREAK SPACE",
    "aPER MILLE SIGNbTEN THOUSAND:1aPRIMEaDOUBLE:1aTRIPLE:1aREVERSED:1bDOUBLE:1bTRIPLE:1aCARET",
    "aSINGLE LEFT-POINTING ANGLE QUOTATION MARKbRIGHT-POINTING:3aREFERENCE:1",
    "aDOUBLE EXCLAMATION:1aINTERROBANGaOVERLINEaUNDERTIEaCHARACTER TIEaCARET INSERTION POINT",
    "aASTERISMaHYPHEN BULLETaFRACTION SLASHaLEFT SQUARE BRACKET WITH QUILLaRIGHT:4",
    "aDOUBLE QUESTION MARKaQUESTION EXCLAMATION:1aEXCLAMATION QUESTION:1aTIRONIAN SIGN ET",
    "aREVERSED PILCROW SIGNaBLACK LEFTWARDS BULLETbRIGHTWARDS:1aLOW ASTERISKaREVERSED SEMICOLON",
    "aCLOSE UPaTWO ASTERISKS ALIGNED VERTICALLYaCOMMERCIAL MINUS SIGNaSWUNG DASH",
    "aINVERTED UNDERTIEaFLOWER PUNCTUATION MARKaTHREE DOT PUNCTUATIONaQUADRUPLE PRIME",
    "aFOUR DOT PUNCTUATIONaFIVE:2aTWO:2aFOUR DOT MARKaDOTTED CROSSaTRICOLONaVERTICAL FOUR DOTS",
    "aMEDIUM MATHEMATICAL SPACEaWORD JOINERaFUNCTION APPLICATIONaINVISIBLE TIMESbSEPARATORbPLUS.",
    "aLEFT-TO-RIGHT ISOLATEaRIGHT-TO-LEFT:1aFIRST STRONG:1aPOP DIRECTIONAL:1",
    "aINHIBIT SYMMETRIC SWAPPINGaACTIVATE:2aINHIBIT ARABIC FORM SHAPINGaACTIVATE:3",
    "aNATIONAL DIGIT SHAPESaNOMINAL:2aSUPERSCRIPT ZERObLATIN SMALL LETTER I..bFOURbFIVEbSIX",
    "bSEVENbEIGHTbNINEbPLUS SIGNbMINUSbEQUALS SIGNbLEFT PARENTHESISbRIGHT:1bLATIN SMALL LETTER N",
    "aSUBSCRIPT ZERObONEbTWObTHREEbFOURbFIVEbSIXbSEVENbEIGHTbNINEbPLUS SIGNbMINUSbEQUALS SIGN",
    "bLEFT PARENTHESISbRIGHT:1.aLATIN SUBSCRIPT SMALL LETTER AeEeOeXeSCHWAeHeKeLeMeNePeSeT...",
    "aEURO-CURRENCY SIGNaCOLON:1aCRUZEIRO:1aFRENCH FRANC:1aLIRA:1aMILL:1aNAIRA:1aPESETA:1",
    "aRUPEE:1aWON:1aNEW SHEQEL:1aDONG:1aEURO:1aKIP:1aTUGRIK:1aDRACHMA:1aGERMAN PENNY:1aPESO:1",
    "aGUARANI:1aAUSTRAL:1aHRYVNIA:1aCEDI:1aLIVRE TOURNOIS:1aSPESMILO:1aTENGE:1aINDIAN RUPEE:1",
    "aTURKISH LIRA:1aNORDIC MARK:1aMANAT:1aRUBLE:1aLARI:1aBITCOIN:1aSOM:1...............",
    "aCOMBINING LEFT HARPOON ABOVEbRIGHT:2bLONG VERTICAL LINE OVERLAYbSHORT:3",
    "bANTICLOCKWISE ARROW ABOVEbCLOCKWISE:2bLEFT:2bRIGHT:2bRING OVERLAYbCLOCKWISE:2",
    "bANTICLOCKWISE:2bTHREE DOTS ABOVEbFOUR:2bENCLOSING CIRCLEcSQUAREcDIAMONDcCIRCLE BACKSLASH",
    "bLEFT RIGHT ARROW ABOVEbENCLOSING SCREENcKEYCAPcUPWARD POINTING TRIANGLE",
    "bREVERSE SOLIDUS OVERLAYbDOUBLE VERTICAL STROKE:1bANNUITY SYMBOLbTRIPLE UNDERDOT",
    "bWIDE BRIDGE ABOVEbLEFTWARDS ARROW OVERLAYbLONG DOUBLE SOLIDUS:1",
    "bRIGHTWARDS HARPOON WITH BARB DOWNWARDSbLEFTWARDS:4bLEFT ARROW BELOWbRIGHT:2bASTERISK ABOVE",
    "...............aACCOUNT OFaADDRESSED TO THE SUBJECTaDOUBLE-STRUCK CAPITAL CaDEGREE CELSIUS",
    "aCENTRE LINE SYMBOLaCARE OFaCADA UNAaEULER CONSTANTaSCRUPLEaDEGREE FAHRENHEIT",
    "aSCRIPT SMALL GbCAPITAL HaBLACK-LETTER:2aDOUBLE-STRUCK:2aPLANCK CONSTANTcOVER TWO PI",
    "aSCRIPT CAPITAL IaBLACK-LETTER:2aSCRIPT CAPITAL LbSMALL LaL B BAR SYMBOL",
    "aDOUBLE-STRUCK CAPITAL NaNUMERO SIGNaSOUND RECORDING COPYRIGHTaSCRIPT CAPITAL P",
    "aDOUBLE-STRUCK:2cQaSCRIPT CAPITAL RaBLACK-LETTER:2aDOUBLE-STRUCK:2aPRESCRIPTION TAKE",
    "aRESPONSEaSERVICE MARKaTELEPHONE SIGNaTRADE MARK:1aVERSICLEaDOUBLE-STRUCK CAPITAL Z",
    "aOUNCE SIGNaOHM:1aINVERTED:2aBLACK-LETTER CAPITAL ZaTURNED GREEK SMALL LETTER IOTA",
    "aKELVIN SIGNaANGSTROM:1aSCRIPT CAPITAL BaBLACK-LETTER CAPITAL CaESTIMATED SYMBOL",
    "aSCRIPT SMALL EbCAPITAL EcFaTURNED:2aSCRIPT CAPITAL MbSMALL OaALEF SYMBOLaBET:1aGIMEL:1",
    "aDALET:1aINFORMATION SOURCEaROTATED CAPITAL QaFACSIMILE SIGNaDOUBLE-STRUCK SMALL PIcGAMMA",
    "bCAPITAL:1cPIbN-ARY SUMMATIONaTURNED SANS-SERIF CAPITAL GdLaREVERSED:3",
    "aTURNED SANS-SERIF CAPITAL YaDOUBLE-STRUCK ITALIC CAPITAL DcSMALL DdEdIdJaPROPERTY LINE",
    "aTURNED AMPERSANDaPER SIGNaAKTIESELSKABaTURNED SMALL FaSYMBOL FOR SAMARITAN SOURCE",
    "aVULGAR FRACTION ONE SEVENTHdNINTHdTENTHdTHIRDcTWO THIRDScONE FIFTHcTWO FIFTHScTHREE:1",
    "cFOUR:1cONE SIXTHcFIVE SIXTHScONE EIGHTHcTHREE EIGHTHScFIVE:1cSEVEN:1",
    "aFRACTION NUMERATOR ONEaROMAN NUMERAL:1cTWOcTHREEcFOURcFIVEcSIXcSEVENcEIGHTcNINEcTENcELEVEN",
    "cTWELVEcFIFTYcONE HUNDREDcFIVE:1cONE THOUSANDaSMALL ROMAN NUMERAL ONEdTWOdTHREEdFOURdFIVE",
    "dSIXdSEVENdEIGHTdNINEdTENdELEVENdTWELVEdFIFTYdONE HUNDREDdFIVE:1dONE THOUSAND",
    "aROMAN NUMERAL ONE THOUSAND C DcFIVE THOUSANDcTEN:1cREVERSED ONE HUNDRED",
    "aLATIN SMALL LETTER REVERSED CaROMAN NUMERAL SIX LATE FORMcFIFTY EARLY:1dTHOUSAND",
    "cONE HUNDRED:1aVULGAR FRACTION ZERO THIRDSaTURNED DIGIT TWOcTHREE....aLEFTWARDS ARROW",
    "aUPWARDS:1aRIGHTWARDS:1aDOWNWARDS:1aLEFT RIGHT:1aUP DOWN:1aNORTH WEST:1bEAST:1aSOUTH:2",
    "bWEST:1aLEFTWARDS ARROW WITH STROKEaRIGHTWARDS:3aLEFTWARDS WAVE ARROWaRIGHTWARDS:2",
    "aLEFTWARDS TWO HEADED:1aUPWARDS:3aRIGHTWARDS:3aDOWNWARDS:3aLEFTWARDS ARROW WITH TAIL",
    "aRIGHTWARDS:3aLEFTWARDS ARROW FROM BARaUPWARDS:3aRIGHTWARDS:3aDOWNWARDS:3",
    "aUP DOWN ARROW WITH BASEaLEFTWARDS ARROW WITH HOOKaRIGHTWARDS:3aLEFTWARDS ARROW WITH LOOP",
    "aRIGHTWARDS:3aLEFT RIGHT WAVE ARROWcARROW WITH STROKEaDOWNWARDS ZIGZAG ARROW",
    "aUPWARDS ARROW WITH TIP LEFTWARDSeRIGHTWARDSaDOWNWARDS ARROW WITH TIP LEFTWARDSeRIGHTWARDS",
    "aRIGHTWARDS ARROW WITH CORNER DOWNWARDSaDOWNWARDS ARROW WITH CORNER LEFTWARDS",
    "aANTICLOCKWISE TOP SEMICIRCLE ARROWaCLOCKWISE:3aNORTH WEST ARROW TO LONG BAR",
    "aLEFTWARDS ARROW TO BAR OVER RIGHTWARDS ARROW TO:1aANTICLOCKWISE OPEN CIRCLE ARROW",
    "aCLOCKWISE:3aLEFTWARDS HARPOON WITH BARB UPWARDSeDOWNWARDS",
    "aUPWARDS HARPOON WITH BARB RIGHTWARDSeLEFTWARDSaRIGHTWARDS HARPOON WITH BARB UPWARDS",
    "eDOWNWARDSaDOWNWARDS HARPOON WITH BARB RIGHTWARDSeLEFTWARDS",
    "aRIGHTWARDS ARROW OVER LEFTWARDS ARROWaUPWARDS ARROW LEFTWARDS OF DOWNWARDS:1",
    "aLEFTWARDS ARROW OVER RIGHTWARDS:1bPAIRED ARROWSaUPWARDS:2aRIGHTWARDS:2aDOWNWARDS:2",
    "aLEFTWARDS HARPOON OVER RIGHTWARDS HARPOONaRIGHTWARDS HARPOON OVER LEFTWARDS:1",
    "aLEFTWARDS DOUBLE ARROW WITH STROKEaLEFT RIGHT:4aRIGHTWARDS:4aLEFTWARDS DOUBLE ARROW",
    "aUPWARDS:2aRIGHTWARDS:2aDOWNWARDS:2aLEFT RIGHT:2aUP DOWN:2aNORTH WEST:2bEAST:2aSOUTH:3",
    "bWEST:2aLEFTWARDS TRIPLE:1aRIGHTWARDS:2aLEFTWARDS SQUIGGLE:1aRIGHTWARDS:2",
    "aUPWARDS ARROW WITH DOUBLE STROKEaDOWNWARDS:4aLEFTWARDS DASHED ARROWaUPWARDS:2aRIGHTWARDS:2",
    "aDOWNWARDS:2aLEFTWARDS ARROW TO BARaRIGHTWARDS:3aLEFTWARDS WHITE ARROWaUPWARDS:2",
    "aRIGHTWARDS:2aDOWNWARDS:2aUPWARDS WHITE ARROW FROM BARdON PEDESTALfWITH HORIZONTAL BAR",
    "gVERTICAL:1cDOUBLE ARROWeON PEDESTALaRIGHTWARDS WHITE ARROW FROM WALL",
    "aNORTH WEST ARROW TO CORNERaSOUTH EAST:3aUP DOWN WHITE ARROWaRIGHT ARROW WITH SMALL CIRCLE",
    "aDOWNWARDS ARROW LEFTWARDS OF UPWARDS ARROWaTHREE RIGHTWARDS ARROWS",
    "aLEFTWARDS ARROW WITH VERTICAL STROKEaRIGHTWARDS:4aLEFT RIGHT:4",
    "aLEFTWARDS ARROW WITH DOUBLE:2aRIGHTWARDS:5aLEFT RIGHT:5aLEFTWARDS OPEN-HEADED ARROW",
    "aRIGHTWARDS:2aLEFT RIGHT:2aFOR ALLaCOMPLEMENTaPARTIAL DIFFERENTIALaTHERE EXISTS",
    "bDOES NOT EXISTaEMPTY SETaINCREMENTaNABLAaELEMENT OFaNOT AN:2aSMALL:2aCONTAINS AS MEMBER",
    "aDOES NOT CONTAIN:2aSMALL CONTAINS:2aEND OF PROOFaN-ARY PRODUCTbCOPRODUCTbSUMMATION",
    "aMINUS SIGNaMINUS-OR-PLUS:1aDOT PLUSaDIVISION SLASHaSET MINUSaASTERISK OPERATORaRING:1",
    "aBULLET:1aSQUARE ROOTaCUBE:1aFOURTH:1aPROPORTIONAL TOaINFINITYaRIGHT ANGLEa:1aMEASURED:1",
    "aSPHERICAL:1aDIVIDESaDOES NOT DIVIDEaPARALLEL TOaNOT:2aLOGICAL ANDbORaINTERSECTIONaUNION",
    "aINTEGRALaDOUBLE:1aTRIPLE:1aCONTOUR:1aSURFACE:1aVOLUME:1aCLOCKWISE:1bCONTOUR:1",
    "aANTICLOCKWISE:2aTHEREFOREaBECAUSEaRATIOaPROPORTIONaDOT MINUSaEXCESSaGEOMETRIC PROPORTION",
    "aHOMOTHETICaTILDE OPERATORaREVERSED TILDEaINVERTED LAZY SaSINE WAVEaWREATH PRODUCT",
    "aNOT TILDEaMINUS:1aASYMPTOTICALLY EQUAL TOaNOT:3aAPPROXIMATELY:2bBUT NOT ACTUALLY:2",
    "aNEITHER APPROXIMATELY NOR:3aALMOST:2aNOT:3aALMOST EQUAL OR:2aTRIPLE TILDEaALL EQUAL TO",
    "aEQUIVALENT:1aGEOMETRICALLY:2aDIFFERENCE BETWEENaAPPROACHES THE LIMIT",
    "aGEOMETRICALLY EQUAL TOaAPPROXIMATELY EQUAL TO OR THE IMAGE OF",
    "aIMAGE OF OR APPROXIMATELY EQUAL TOaCOLON EQUALSaEQUALS COLONaRING IN EQUAL TOb:2",
    "aCORRESPONDS:1aESTIMATESaEQUIANGULAR TOaSTAR EQUALSaDELTA EQUAL TOaEQUAL TO BY DEFINITION",
    "aMEASURED BYaQUESTIONED EQUAL TOaNOT:2aIDENTICAL:1aNOT:2aSTRICTLY EQUIVALENT:1",
    "aLESS-THAN OR EQUAL:1aGREATER-THAN:3aLESS-THAN OVER:2aGREATER-THAN:3aLESS-THAN BUT NOT:2",
    "aGREATER-THAN:4aMUCH LESS-THANbGREATER-THANaBETWEENaNOT EQUIVALENT TObLESS-THAN",
    "bGREATER-THANaNEITHER LESS-THAN NOR EQUAL TObGREATER-THAN:3aLESS-THAN OR EQUIVALENT:1",
    "aGREATER-THAN:3aNEITHER LESS-THAN NOR:2bGREATER-THAN:3aLESS-THAN OR GREATER-THAN",
    "aGREATER-THAN OR LESS-THANaNEITHER LESS-THAN NOR GREATER-THANbGREATER-THAN NOR LESS-THAN",
    "aPRECEDESaSUCCEEDSaPRECEDES OR EQUAL TOaSUCCEEDS:3aPRECEDES OR EQUIVALENT:1aSUCCEEDS:3",
    "aDOES NOT PRECEDEcSUCCEEDaSUBSET OFaSUPERSET:1aNOT A SUBSET:1cSUPERSET:1",
    "aSUBSET OF OR EQUAL TOaSUPERSET:4aNEITHER A SUBSET OF NOR:2cSUPERSET:4aSUBSET OF WITH NOT:2",
    "aSUPERSET:5aMULTISETbMULTIPLICATIONbUNIONaSQUARE IMAGE OFbORIGINAL:1bIMAGE OF OR EQUAL TO",
    "bORIGINAL:4bCAPbCUPaCIRCLED PLUSbMINUSbTIMESbDIVISION SLASHbDOT OPERATORbRING:1bASTERISK:1",
    "bEQUALSbDASHaSQUARED PLUSbMINUSbTIMESbDOT OPERATORaRIGHT TACKaLEFT:1aDOWN:1aUP:1aASSERTION",
    "aMODELSaTRUEaFORCESaTRIPLE VERTICAL BAR RIGHT TURNSTILEaDOUBLE VERTICAL BAR DOUBLE:2",
    "aDOES NOT PROVEaNOT TRUEaDOES NOT FORCEaNEGATED DOUBLE VERTICAL BAR DOUBLE RIGHT TURNSTILE",
    "aPRECEDES UNDER RELATIONaSUCCEEDS:2aNORMAL SUBGROUP OFaCONTAINS AS NORMAL SUBGROUP",
    "aNORMAL SUBGROUP OF OR EQUAL TOaCONTAINS AS NORMAL SUBGROUP:3aORIGINAL OFaIMAGE:1aMULTIMAP",
    "aHERMITIAN CONJUGATE MATRIXaINTERCALATEaXORaNANDaNORaRIGHT ANGLE WITH ARCbTRIANGLE",
    "aN-ARY LOGICAL ANDcORbINTERSECTIONbUNIONaDIAMOND OPERATORaDOT:1aSTAR:1aDIVISION TIMES",
    "aBOWTIEaLEFT NORMAL FACTOR SEMIDIRECT PRODUCTaRIGHT:4aLEFT:2aRIGHT:2aREVERSED TILDE EQUALS",
    "aCURLY LOGICAL ORcANDaDOUBLE SUBSETbSUPERSETbINTERSECTIONbUNIONaPITCHFORK",
    "aEQUAL AND PARALLEL TOaLESS-THAN WITH DOTaGREATER-THAN:2aVERY MUCH LESS-THANcGREATER-THAN",
    "aLESS-THAN EQUAL TO OR:1aGREATER-THAN EQUAL TO OR LESS-THANa:4dGREATER-THANdPRECEDES",
    "dSUCCEEDSaDOES NOT PRECEDE OR EQUALcSUCCEED:2aNOT SQUARE IMAGE OF OR EQUAL TOcORIGINAL:4",
    "aSQUARE IMAGE OF OR NOT:2bORIGINAL:5aLESS-THAN BUT NOT EQUIVALENT:1aGREATER-THAN:4",
    "aPRECEDES:4aSUCCEEDS:4aNOT NORMAL SUBGROUP OFaDOES NOT CONTAIN AS NORMAL SUBGROUP",
    "aNOT NORMAL SUBGROUP OF OR EQUAL TOaDOES NOT CONTAIN AS NORMAL SUBGROUP OR EQUAL",
    "aVERTICAL ELLIPSISaMIDLINE HORIZONTAL:1aUP RIGHT DIAGONAL:1aDOWN:3",
    "aELEMENT OF WITH LONG HORIZONTAL STROKEdVERTICAL BAR AT END OF:2aSMALL ELEMENT:9",
    "aELEMENT OF WITH DOT ABOVEdOVERBARaSMALL:4aELEMENT OF WITH UNDERBARdTWO HORIZONTAL STROKES",
    "aCONTAINS WITH LONG HORIZONTAL STROKEcVERTICAL BAR AT END OF:2aSMALL:9",
    "aCONTAINS WITH OVERBARaSMALL:3aZ NOTATION BAG MEMBERSHIPaDIAMETER SIGNaELECTRIC ARROWaHOUSE",
    "aUP ARROWHEADaDOWN:1aPROJECTIVEaPERSPECTIVEaWAVY LINEaLEFT CEILINGaRIGHT:1aLEFT FLOOR",
    "aRIGHT:1aBOTTOM RIGHT CROPbLEFT:1aTOP RIGHT:1bLEFT:1aREVERSED NOT SIGNaSQUARE LOZENGEaARC",
    "aSEGMENTaSECTORaTELEPHONE RECORDERaPOSITION INDICATORaVIEWDATA SQUARE",
    "aPLACE OF INTEREST SIGNaTURNED NOT:1aWATCHaHOURGLASSaTOP LEFT CORNERbRIGHT:1aBOTTOM LEFT:1",
    "bRIGHT:1aTOP HALF INTEGRALaBOTTOM:2aFROWNaSMILEaUP ARROWHEAD BETWEEN TWO HORIZONTAL BARS",
    "aOPTION KEYaERASE TO THE RIGHTaX IN A RECTANGLE BOXaKEYBOARDaLEFT-POINTING ANGLE BRACKET",
    "aRIGHT-POINTING:2aERASE TO THE LEFTaBENZENE RINGaCYLINDRICITYaALL AROUND-PROFILEaSYMMETRY",
    "aTOTAL RUNOUTaDIMENSION ORIGINaCONICAL TAPERaSLOPEaCOUNTERBOREaCOUNTERSINK",
    "aAPL FUNCTIONAL SYMBOL I-BEAMdSQUISH QUADdQUAD EQUALeDIVIDEeDIAMONDeJOTeCIRCLEdCIRCLE STILE",
    "eJOTdSLASH BARdBACKSLASH:1dQUAD SLASHeBACKSLASHeLESS-THANeGREATER-THANdLEFTWARDS VANE",
    "dRIGHTWARDS:1dQUAD LEFTWARDS ARROWeRIGHTWARDS:1dCIRCLE BACKSLASHdDOWN TACK UNDERBAR",
    "dDELTA STILEdQUAD DOWN CARETeDELTAdDOWN TACK JOTdUPWARDS VANEdQUAD UPWARDS ARROW",
    "dUP TACK OVERBARdDEL STILEdQUAD UP CARETeDELdUP TACK JOTdDOWNWARDS VANE",
    "dQUAD DOWNWARDS ARROWdQUOTE UNDERBARdDELTA:1dDIAMOND:1dJOT:1dCIRCLE:1dUP SHOE JOT",
    "dQUOTE QUADdCIRCLE STARdQUAD COLONdUP TACK DIAERESISdDEL:1dSTAR:1dJOT:1dCIRCLE:1",
    "dDOWN SHOE STILEdLEFT:2dTILDE DIAERESISdGREATER-THAN:1dCOMMA BARdDEL TILDEdZILDE",
    "dSTILE TILDEdSEMICOLON UNDERBARdQUAD NOT EQUALeQUESTIONdDOWN CARET TILDEdUP:2dIOTAdRHO",
    "dOMEGAdALPHA UNDERBARdEPSILON:1dIOTA:1dOMEGA:1dALPHAaNOT CHECK MARK",
    "aRIGHT ANGLE WITH DOWNWARDS ZIGZAG ARROWaSHOULDERED OPEN BOXaBELL SYMBOL",
    "aVERTICAL LINE WITH MIDDLE DOTaINSERTION SYMBOLaCONTINUOUS UNDERLINE:1aDISCONTINUOUS:2",
    "aEMPHASIS:1aCOMPOSITION:1aWHITE SQUARE WITH CENTRE VERTICAL LINEaENTER SYMBOL",
    "aALTERNATIVE KEY:1aHELM:1aCIRCLED HORIZONTAL BAR WITH NOTCHbTRIANGLE DOWN",
    "aBROKEN CIRCLE WITH NORTHWEST ARROWaUNDO SYMBOLaMONOSTABLE:1aHYSTERESIS:1",
    "aOPEN-CIRCUIT-OUTPUT H-TYPE:1bL-TYPE:1aPASSIVE-PULL-DOWN-OUTPUT:1aPASSIVE-PULL-UP-OUTPUT:1",
    "aDIRECT CURRENT SYMBOL FORM TWOaSOFTWARE-FUNCTION SYMBOLaAPL FUNCTIONAL SYMBOL QUAD",
    "aDECIMAL SEPARATOR KEY SYMBOLaPREVIOUS PAGEaNEXT:1aPRINT SCREEN SYMBOLaCLEAR:2",
    "aLEFT PARENTHESIS UPPER HOOKcEXTENSIONcLOWER HOOKaRIGHT PARENTHESIS UPPER:1cEXTENSION",
    "cLOWER HOOKaLEFT SQUARE BRACKET UPPER CORNERdEXTENSIONdLOWER CORNER",
    "aRIGHT SQUARE BRACKET UPPER:1dEXTENSIONdLOWER CORNERaLEFT CURLY BRACKET UPPER HOOK",
    "dMIDDLE PIECEdLOWER HOOKaCURLY BRACKET EXTENSIONaRIGHT CURLY BRACKET UPPER HOOK",
    "dMIDDLE PIECEdLOWER HOOKaINTEGRAL EXTENSIONaHORIZONTAL LINE:1",
    "aUPPER LEFT OR LOWER RIGHT CURLY BRACKET SECTIONbRIGHT OR LOWER LEFT:3aSUMMATION TOPbBOTTOM",
    "aTOP SQUARE BRACKETaBOTTOM:2dOVER TOP SQUARE BRACKETaRADICAL SYMBOL BOTTOM",
    "aLEFT VERTICAL BOX LINEaRIGHT:3aHORIZONTAL SCAN LINE-1cLINE-3cLINE-7cLINE-9",
    "aDENTISTRY SYMBOL LIGHT VERTICAL AND TOP RIGHTfBOTTOM:1eWITH CIRCLEdDOWN AND HORIZONTAL:2",
    "dUP:4dVERTICAL WITH TRIANGLEdDOWN AND HORIZONTAL:2dUP:4dVERTICAL AND WAVE",
    "dDOWN AND HORIZONTAL WITH:1dUP:4dDOWN AND HORIZONTALdUP:2dVERTICAL AND TOP LEFTfBOTTOM:1",
    "aSQUARE FOOTaRETURN SYMBOLaEJECT:1aVERTICAL LINE EXTENSIONaMETRICAL BREVEbLONG OVER SHORT",
    "bSHORT OVER LONGbLONG OVER TWO SHORTSbTWO SHORTS OVER LONGdJOINEDbTRISEMEbTETRASEME",
    "bPENTASEMEaEARTH GROUNDaFUSEaTOP PARENTHESISaBOTTOM:1aTOP CURLY BRACKETaBOTTOM:2",
    "aTOP TORTOISE SHELL:1aBOTTOM:3aWHITE TRAPEZIUMaBENZENE RING WITH CIRCLEaSTRAIGHTNESS",
    "aFLATNESSaAC CURRENTaELECTRICAL INTERSECTIONaDECIMAL EXPONENT SYMBOL",
    "aBLACK RIGHT-POINTING DOUBLE TRIANGLEbLEFT-POINTING:2bUP-POINTING:2bDOWN-POINTING:2",
    "bRIGHT-POINTING DOUBLE TRIANGLE WITH VERTICAL BARbLEFT-POINTING:5",
    "bRIGHT-POINTING TRIANGLE WITH DOUBLE:2aALARM CLOCKaSTOPWATCHaTIMER CLOCK",
    "aHOURGLASS WITH FLOWING SANDaBLACK MEDIUM LEFT-POINTING TRIANGLEcRIGHT-POINTING:1",
    "cUP-POINTING:1cDOWN-POINTING:1aDOUBLE VERTICAL BARaBLACK SQUARE FOR STOPbCIRCLE FOR RECORD",
    "aPOWER SYMBOLbON-OFF:1bON:1bSLEEP:1aOBSERVER EYE:1aSYMBOL FOR NULLcSTART OF HEADINGeTEXT",
    "cEND:2eTRANSMISSIONcENQUIRYcACKNOWLEDGEcBELLcBACKSPACEcHORIZONTAL TABULATIONcLINE FEED",
    "cVERTICAL TABULATIONcFORM FEEDcCARRIAGE RETURNcSHIFT OUTdINcDATA LINK ESCAPE",
    "cDEVICE CONTROL ONEeTWOeTHREEeFOURcNEGATIVE ACKNOWLEDGEcSYNCHRONOUS IDLE",
    "cEND OF TRANSMISSION BLOCKcCANCELcEND OF MEDIUMcSUBSTITUTEcESCAPEcFILE SEPARATORcGROUP:1",
    "cRECORD:1cUNIT:1cSPACEcDELETEaBLANK SYMBOLaOPEN BOXaSYMBOL FOR NEWLINEcDELETE FORM TWO",
    "cSUBSTITUTE:2.........................aOCR HOOKbCHAIRbFORKbINVERTED:1bBELT BUCKLEbBOW TIE",
    "bBRANCH BANK IDENTIFICATIONbAMOUNT OF CHECKbDASHbCUSTOMER ACCOUNT NUMBERbDOUBLE BACKSLASH..",
    "...................aCIRCLED DIGIT ONEcTWOcTHREEcFOURcFIVEcSIXcSEVENcEIGHTcNINEbNUMBER TEN",
    "cELEVENcTWELVEcTHIRTEENcFOURTEENcFIFTEENcSIXTEENcSEVENTEENcEIGHTEENcNINETEENcTWENTY",
    "aPARENTHESIZED DIGIT ONEcTWOcTHREEcFOURcFIVEcSIXcSEVENcEIGHTcNINEbNUMBER TENcELEVENcTWELVE",
    "cTHIRTEENcFOURTEENcFIFTEENcSIXTEENcSEVENTEENcEIGHTEENcNINETEENcTWENTYaDIGIT ONE FULL STOP",
    "bTWO:2bTHREE:2bFOUR:2bFIVE:2bSIX:2bSEVEN:2bEIGHT:2bNINE:2aNUMBER TEN:2bELEVEN:2bTWELVE:2",
    "bTHIRTEEN:2bFOURTEEN:2bFIFTEEN:2bSIXTEEN:2bSEVENTEEN:2bEIGHTEEN:2bNINETEEN:2bTWENTY:2",
    "aPARENTHESIZED LATIN SMALL LETTER AeBeCeDeEeFeGeHeIeJeKeLeMeNeOePeQeReSeTeUeVeWeXeYeZ",
    "aCIRCLED LATIN CAPITAL LETTER AeBeCeDeEeFeGeHeIeJeKeLeMeNeOePeQeReSeTeUeVeWeXeYeZ",
    "cSMALL LETTER AeBeCeDeEeFeGeHeIeJeKeLeMeNeOePeQeReSeTeUeVeWeXeYeZbDIGIT ZERO",
    "aNEGATIVE CIRCLED NUMBER ELEVENdTWELVEdTHIRTEENdFOURTEENdFIFTEENdSIXTEENdSEVENTEENdEIGHTEEN",
    "dNINETEENdTWENTYaDOUBLE CIRCLED DIGIT ONEdTWOdTHREEdFOURdFIVEdSIXdSEVENdEIGHTdNINE",
    "cNUMBER TENaNEGATIVE CIRCLED DIGIT ZEROaBOX DRAWINGS LIGHT HORIZONTALcHEAVY:1",
    "cLIGHT VERTICALcHEAVY:1cLIGHT TRIPLE DASH HORIZONTALcHEAVY:3cLIGHT TRIPLE DASH VERTICAL",
    "cHEAVY:3cLIGHT QUADRUPLE DASH HORIZONTALcHEAVY:3cLIGHT QUADRUPLE DASH VERTICALcHEAVY:3",
    "cLIGHT DOWN AND RIGHTcDOWN LIGHT AND RIGHT HEAVYdHEAVY AND RIGHT LIGHTcHEAVY DOWN AND RIGHT",
    "cLIGHT DOWN AND LEFTcDOWN LIGHT AND LEFT HEAVYdHEAVY AND LEFT LIGHTcHEAVY DOWN AND LEFT",
    "cLIGHT UP AND RIGHTcUP LIGHT AND RIGHT HEAVYdHEAVY AND RIGHT LIGHTcHEAVY UP AND RIGHT",
    "cLIGHT UP AND LEFTcUP LIGHT AND LEFT HEAVYdHEAVY AND LEFT LIGHTcHEAVY UP AND LEFT",
    "cLIGHT VERTICAL AND RIGHTcVERTICAL LIGHT AND RIGHT HEAVYcUP HEAVY AND RIGHT DOWN LIGHT",
    "cDOWN HEAVY AND RIGHT UP:1cVERTICAL HEAVY AND RIGHT:1cDOWN LIGHT AND RIGHT UP HEAVY",
    "cUP LIGHT AND RIGHT DOWN:1cHEAVY VERTICAL AND RIGHTcLIGHT VERTICAL AND LEFT",
    "cVERTICAL LIGHT AND LEFT HEAVYcUP HEAVY AND LEFT DOWN LIGHTcDOWN HEAVY AND LEFT UP:1",
    "cVERTICAL HEAVY AND LEFT:1cDOWN LIGHT AND LEFT UP HEAVYcUP LIGHT AND LEFT DOWN:1",
    "cHEAVY VERTICAL AND LEFTcLIGHT DOWN AND HORIZONTALcLEFT HEAVY AND RIGHT DOWN LIGHT",
    "cRIGHT HEAVY AND LEFT:2cDOWN LIGHT AND HORIZONTAL HEAVYdHEAVY AND HORIZONTAL LIGHT",
    "cRIGHT LIGHT AND LEFT DOWN HEAVYcLEFT LIGHT AND RIGHT:2cHEAVY DOWN AND HORIZONTAL",
    "cLIGHT UP:2cLEFT HEAVY AND RIGHT UP LIGHTcRIGHT HEAVY AND LEFT:2",
    "cUP LIGHT AND HORIZONTAL HEAVYdHEAVY AND HORIZONTAL LIGHTcRIGHT LIGHT AND LEFT UP HEAVY",
    "cLEFT LIGHT AND RIGHT:2cHEAVY UP AND HORIZONTALcLIGHT VERTICAL:2",
    "cLEFT HEAVY AND RIGHT VERTICAL LIGHTcRIGHT HEAVY AND LEFT:2",
    "cVERTICAL LIGHT AND HORIZONTAL HEAVYcUP HEAVY AND DOWN HORIZONTAL LIGHTcDOWN HEAVY AND UP:2",
    "cVERTICAL HEAVY AND:2cLEFT UP HEAVY AND RIGHT DOWN:1cRIGHT UP HEAVY AND LEFT:2",
    "cLEFT DOWN HEAVY AND RIGHT UP:1cRIGHT DOWN HEAVY AND LEFT:2",
    "cDOWN LIGHT AND UP HORIZONTAL HEAVYcUP LIGHT AND DOWN:2cRIGHT LIGHT AND LEFT VERTICAL:1",
    "cLEFT LIGHT AND RIGHT:2cHEAVY VERTICAL AND HORIZONTALcLIGHT DOUBLE DASH:1cHEAVY:3",
    "cLIGHT DOUBLE DASH VERTICALcHEAVY:3cDOUBLE HORIZONTALdVERTICALcDOWN SINGLE AND RIGHT DOUBLE",
    "dDOUBLE AND RIGHT SINGLEcDOUBLE DOWN AND RIGHTcDOWN SINGLE AND LEFT DOUBLE",
    "dDOUBLE AND LEFT SINGLEcDOUBLE DOWN AND LEFTcUP SINGLE AND RIGHT DOUBLE",
    "dDOUBLE AND RIGHT SINGLEcDOUBLE UP AND RIGHTcUP SINGLE AND LEFT DOUBLE",
    "dDOUBLE AND LEFT SINGLEcDOUBLE UP AND LEFTcVERTICAL SINGLE AND RIGHT DOUBLE",
    "dDOUBLE AND RIGHT SINGLEcDOUBLE VERTICAL AND RIGHTcVERTICAL SINGLE AND LEFT DOUBLE",
    "dDOUBLE AND LEFT SINGLEcDOUBLE VERTICAL AND LEFTcDOWN SINGLE AND HORIZONTAL DOUBLE",
    "dDOUBLE AND HORIZONTAL SINGLEcDOUBLE DOWN AND HORIZONTALcUP SINGLE AND HORIZONTAL DOUBLE",
    "dDOUBLE AND HORIZONTAL SINGLEcDOUBLE UP AND HORIZONTAL",
    "cVERTICAL SINGLE AND HORIZONTAL DOUBLEdDOUBLE AND HORIZONTAL SINGLE",
    "cDOUBLE VERTICAL AND HORIZONTALcLIGHT ARC DOWN AND RIGHTgLEFTeUP:2gRIGHT",
    "dDIAGONAL UPPER RIGHT TO LOWER LEFTfLEFT TO LOWER RIGHTeCROSSdLEFTdUPdRIGHTdDOWNcHEAVY LEFT",
    "dUPdRIGHTdDOWNcLIGHT LEFT AND HEAVY RIGHTdUP AND HEAVY DOWNcHEAVY LEFT AND LIGHT RIGHT",
    "dUP AND LIGHT DOWNaUPPER HALF BLOCKaLOWER ONE EIGHTH:1cQUARTER:1bTHREE EIGHTHS:1bHALF:1",
    "bFIVE EIGHTHS:1bTHREE QUARTERS:1bSEVEN EIGHTHS:1aFULL:1aLEFT SEVEN EIGHTHS:1",
    "bTHREE QUARTERS:1bFIVE EIGHTHS:1bHALF:1bTHREE EIGHTHS:1bONE QUARTER:1cEIGHTH:1aRIGHT HALF:1",
    "aLIGHT SHADEaMEDIUM:1aDARK:1aUPPER ONE EIGHTH BLOCKaRIGHT:3aQUADRANT LOWER LEFTcRIGHT",
    "bUPPER LEFTdAND LOWER LEFT AND LOWER RIGHTf:1eUPPER RIGHT AND LOWER LEFTiRIGHTc:1",
    "dAND LOWER LEFTgAND LOWER RIGHTaBLACK SQUAREaWHITE:1cWITH ROUNDED CORNERS",
    "cCONTAINING BLACK SMALL SQUAREaSQUARE WITH HORIZONTAL FILLcVERTICAL:1",
    "cORTHOGONAL CROSSHATCH:1cUPPER LEFT TO LOWER RIGHT:1dRIGHT TO LOWER LEFT:1",
    "cDIAGONAL CROSSHATCH:1aBLACK SMALL SQUAREaWHITE:2aBLACK RECTANGLEaWHITE:1aBLACK VERTICAL:1",
    "aWHITE:2aBLACK PARALLELOGRAMaWHITE:1aBLACK UP-POINTING TRIANGLEaWHITE:2",
    "aBLACK UP-POINTING SMALL:1aWHITE:3aBLACK RIGHT-POINTING:1aWHITE:2",
    "aBLACK RIGHT-POINTING SMALL:1aWHITE:3aBLACK RIGHT-POINTING POINTERaWHITE:2",
    "aBLACK DOWN-POINTING TRIANGLEaWHITE:2aBLACK DOWN-POINTING SMALL:1aWHITE:3",
    "aBLACK LEFT-POINTING:1aWHITE:2aBLACK LEFT-POINTING SMALL:1aWHITE:3",
    "aBLACK LEFT-POINTING POINTERaWHITE:2aBLACK DIAMONDaWHITE:1cCONTAINING BLACK SMALL DIAMOND",
    "aFISHEYEaLOZENGEaWHITE CIRCLEaDOTTED:1aCIRCLE WITH VERTICAL FILLaBULLSEYEaBLACK CIRCLE",
    "aCIRCLE WITH LEFT HALF BLACKcRIGHT:2cLOWER:2cUPPER:2dRIGHT QUADRANT:1cALL BUT UPPER LEFT:2",
    "aLEFT HALF BLACK CIRCLEaRIGHT:3aINVERSE BULLETbWHITE CIRCLEaUPPER HALF:3aLOWER:4",
    "aUPPER LEFT QUADRANT CIRCULAR ARCbRIGHT:3aLOWER:4bLEFT:3aUPPER HALF CIRCLEaLOWER:2",
    "aBLACK LOWER RIGHT TRIANGLEcLEFT:1bUPPER:2cRIGHT:1aWHITE BULLETaSQUARE WITH LEFT HALF BLACK",
    "cRIGHT:2cUPPER LEFT DIAGONAL:2cLOWER RIGHT:3aWHITE SQUARE WITH VERTICAL BISECTING LINE",
    "bUP-POINTING TRIANGLE WITH DOTaUP-POINTING TRIANGLE WITH LEFT HALF BLACKdRIGHT:2",
    "aLARGE CIRCLEaWHITE SQUARE WITH UPPER LEFT QUADRANTdLOWER:2eRIGHT:1dUPPER:2",
    "bCIRCLE WITH UPPER LEFT:1dLOWER:2eRIGHT:1dUPPER:2aUPPER LEFT TRIANGLEbRIGHT:1aLOWER LEFT:1",
    "aWHITE MEDIUM SQUAREaBLACK:2aWHITE MEDIUM SMALL:1aBLACK:3aLOWER RIGHT TRIANGLE",
    "aBLACK SUN WITH RAYSaCLOUDaUMBRELLAaSNOWMANaCOMETaBLACK STARaWHITE:1aLIGHTNINGaTHUNDERSTORM",
    "aSUNaASCENDING NODEaDESCENDING:1aCONJUNCTIONaOPPOSITIONaBLACK TELEPHONEaWHITE:1aBALLOT BOX",
    "cWITH CHECKdXaSALTIREaUMBRELLA WITH RAIN DROPSaHOT BEVERAGEaWHITE SHOGI PIECEaBLACK:2",
    "aSHAMROCKaREVERSED ROTATED FLORAL HEART BULLETaBLACK LEFT POINTING INDEXbRIGHT:2",
    "aWHITE LEFT:2bUP:2bRIGHT:2bDOWN:2aSKULL AND CROSSBONESaCAUTION SIGNaRADIOACTIVE:1",
    "aBIOHAZARD:1aCADUCEUSaANKHaORTHODOX CROSSaCHI RHOaCROSS OF LORRAINEcJERUSALEM",
    "aSTAR AND CRESCENTaFARSI SYMBOLaADI SHAKTIaHAMMER AND SICKLEaPEACE SYMBOLaYIN YANG",
    "aTRIGRAM FOR HEAVENcLAKEcFIREcTHUNDERcWINDcWATERcMOUNTAINcEARTHaWHEEL OF DHARMA",
    "aWHITE FROWNING FACEbSMILING:1aBLACK:2aWHITE SUN WITH RAYSaFIRST QUARTER MOONaLAST:2",
    "aMERCURYaFEMALE SIGNaEARTHaMALE SIGNaJUPITERaSATURNaURANUSaNEPTUNEaPLUTOaARIESaTAURUS",
    "aGEMINIaCANCERaLEOaVIRGOaLIBRAaSCORPIUSaSAGITTARIUSaCAPRICORNaAQUARIUSaPISCES",
    "aWHITE CHESS KINGcQUEENcROOKcBISHOPcKNIGHTcPAWNaBLACK CHESS KINGcQUEENcROOKcBISHOPcKNIGHT",
    "cPAWNbSPADE SUITaWHITE HEART:1bDIAMOND:1aBLACK CLUB:1aWHITE SPADE:1aBLACK HEART:1bDIAMOND:1",
    "aWHITE CLUB:1aHOT SPRINGSaQUARTER NOTEaEIGHTH:1aBEAMED EIGHTH NOTESbSIXTEENTH:1",
    "aMUSIC FLAT SIGNbNATURAL:1bSHARP:1aWEST SYRIAC CROSSaEAST:2aUNIVERSAL RECYCLING SYMBOL",
    "aRECYCLING SYMBOL FOR TYPE-1 PLASTICSdTYPE-2:1dTYPE-3:1dTYPE-4:1dTYPE-5:1dTYPE-6:1dTYPE-7:1",
    "dGENERIC MATERIALSaBLACK UNIVERSAL RECYCLING SYMBOLaRECYCLED PAPER:1aPARTIALLY-RECYCLED:2",
    "aPERMANENT PAPER SIGNaWHEELCHAIR SYMBOLaDIE FACE-1+++++aWHITE CIRCLE WITH DOT RIGHT",
    "dTWO DOTSaBLACK CIRCLE WITH WHITE DOT RIGHTdTWO WHITE DOTSaMONOGRAM FOR YANGcYIN",
    "aDIGRAM FOR GREATER YANGcLESSER YINdYANGcGREATER YINaWHITE FLAGaBLACK:1aHAMMER AND PICK",
    "aANCHORaCROSSED SWORDSaSTAFF OF AESCULAPIUSaSCALESaALEMBICaFLOWERaGEARaSTAFF OF HERMES",
    "aATOM SYMBOLaFLEUR-DE-LISaOUTLINED WHITE STARaTHREE LINES CONVERGING RIGHTdLEFT",
    "aWARNING SIGNaHIGH VOLTAGE:1aDOUBLED FEMALE:1bMALE:1aINTERLOCKED FEMALE AND:2",
    "aMALE AND FEMALE:1bWITH STROKE:1dAND MALE AND FEMALE:1aVERTICAL MALE WITH STROKE:1",
    "aHORIZONTAL:4aMEDIUM WHITE CIRCLEbBLACK:1bSMALL WHITE:1aMARRIAGE SYMBOLaDIVORCE:1",
    "aUNMARRIED PARTNERSHIP:1aCOFFINaFUNERAL URNaNEUTERaCERESaPALLASaJUNOaVESTAaCHIRON",
    "aBLACK MOON LILITHaSEXTILEaSEMISEXTILEaQUINCUNXaSESQUIQUADRATEaSOCCER BALLaBASEBALL",
    "aSQUARED KEYaWHITE DRAUGHTS MANcKINGaBLACK DRAUGHTS MANcKINGaSNOWMAN WITHOUT SNOW",
    "aSUN BEHIND CLOUDaRAINaBLACK SNOWMANaTHUNDER CLOUD AND RAINaTURNED WHITE SHOGI PIECE",
    "bBLACK:2aWHITE DIAMOND IN SQUAREaCROSSING LANESaDISABLED CARaOPHIUCHUSaPICKaCAR SLIDING",
    "aHELMET WITH WHITE CROSSaCIRCLED CROSSING LANESaCHAINSaNO ENTRY",
    "aALTERNATE ONE-WAY LEFT WAY TRAFFICaBLACK TWO-WAY:3aWHITE:4aBLACK LEFT LANE MERGEaWHITE:3",
    "aDRIVE SLOW SIGNaHEAVY WHITE DOWN-POINTING TRIANGLEaLEFT CLOSED ENTRYaSQUARED SALTIRE",
    "aFALLING DIAGONAL IN WHITE CIRCLE IN BLACK SQUAREaBLACK TRUCKaRESTRICTED LEFT ENTRY-1+",
    "aASTRONOMICAL SYMBOL FOR URANUSaHEAVY CIRCLE WITH STROKE AND TWO DOTS ABOVEaPENTAGRAM",
    "aRIGHT-HANDED INTERLACED:1aLEFT-HANDED:2aINVERTED:1aBLACK CROSS ON SHIELDaSHINTO SHRINE",
    "aCHURCHaCASTLEaHISTORIC SITEaGEAR WITHOUT HUBbWITH HANDLESaMAP SYMBOL FOR LIGHTHOUSE",
    "aMOUNTAINaUMBRELLA ON GROUNDaFOUNTAINaFLAG IN HOLEaFERRYaSAILBOATaSQUARE FOUR CORNERSaSKIER",
    "aICE SKATEaPERSON WITH BALLaTENTaJAPANESE BANK SYMBOLaHEADSTONE GRAVEYARD:1aFUEL PUMP",
    "aCUP ON BLACK SQUAREaWHITE FLAG WITH HORIZONTAL MIDDLE BLACK STRIPEaBLACK SAFETY SCISSORS",
    "aUPPER BLADE:1aBLACK:1aLOWER BLADE:1aWHITE:1bHEAVY CHECK MARKaTELEPHONE LOCATION SIGN",
    "aTAPE DRIVEaAIRPLANEaENVELOPEaRAISED FISTbHANDaVICTORY:1aWRITING:1aLOWER RIGHT PENCILa:1",
    "aUPPER RIGHT:1aWHITE NIBaBLACK:1aCHECK MARKaHEAVY:2aMULTIPLICATION XaHEAVY:2aBALLOT X",
    "aHEAVY:2aOUTLINED GREEK CROSSaHEAVY:2aOPEN CENTRE:1aHEAVY:3aLATIN:1aSHADOWED WHITE:2",
    "aOUTLINED:2aMALTESE:1aSTAR OF DAVIDaFOUR TEARDROP-SPOKED ASTERISKbBALLOON-SPOKED:1aHEAVY:3",
    "aFOUR CLUB-SPOKED:1aBLACK FOUR POINTED STARaWHITE:3aSPARKLESaSTRESS OUTLINED WHITE STAR",
    "aCIRCLED:2aOPEN CENTRE BLACK:1aBLACK CENTRE WHITE:1aOUTLINED BLACK:1aHEAVY:3aPINWHEEL:1",
    "aSHADOWED WHITE:1aHEAVY ASTERISKaOPEN CENTRE:1aEIGHT SPOKED:1bPOINTED BLACK STARcPINWHEEL:1",
    "aSIX POINTED BLACK:1aEIGHT POINTED RECTILINEAR:2aHEAVY:5aTWELVE POINTED:2",
    "aSIXTEEN POINTED ASTERISKaTEARDROP-SPOKED:1aOPEN CENTRE:2aHEAVY:2",
    "aSIX PETALLED BLACK AND WHITE FLORETTEaBLACK:1aWHITE:1aEIGHT PETALLED OUTLINED BLACK:1",
    "aCIRCLED OPEN CENTRE EIGHT POINTED STARaHEAVY TEARDROP-SPOKED PINWHEEL ASTERISKaSNOWFLAKE",
    "aTIGHT TRIFOLIATE:1aHEAVY CHEVRON:1aSPARKLEaHEAVY:1aBALLOON-SPOKED ASTERISK",
    "aEIGHT TEARDROP-SPOKED PROPELLER:1aHEAVY:4aCROSS MARKaSHADOWED WHITE CIRCLE",
    "aNEGATIVE SQUARED CROSS MARKaLOWER RIGHT DROP-SHADOWED WHITE SQUAREaUPPER:4",
    "aLOWER RIGHT SHADOWED:2aUPPER:4aBLACK QUESTION MARK ORNAMENTaWHITE:3bEXCLAMATION:2",
    "aBLACK DIAMOND MINUS WHITE XaHEAVY EXCLAMATION MARK SYMBOLaLIGHT VERTICAL BARaMEDIUM:2",
    "aHEAVY:2bSINGLE TURNED COMMA QUOTATION MARK ORNAMENTc:4bDOUBLE TURNED:4c:4bLOW SINGLE:4",
    "cDOUBLE:4aCURVED STEM PARAGRAPH SIGN:1aHEAVY EXCLAMATION MARK:1bHEART:3bBLACK HEART",
    "aROTATED HEAVY BLACK HEART BULLETaFLORAL HEARTaROTATED FLORAL HEART BULLET",
    "aMEDIUM LEFT PARENTHESIS ORNAMENTbRIGHT:2bFLATTENED LEFT:2cRIGHT:2",
    "bLEFT-POINTING ANGLE BRACKET:1bRIGHT-POINTING:3aHEAVY LEFT-POINTING ANGLE QUOTATION MARK:1",
    "bRIGHT-POINTING:4bLEFT-POINTING ANGLE BRACKET:1bRIGHT-POINTING:3",
    "aLIGHT LEFT TORTOISE SHELL:2bRIGHT:4aMEDIUM LEFT CURLY:2bRIGHT:3",
    "aDINGBAT NEGATIVE CIRCLED DIGIT ONEeTWOeTHREEeFOUReFIVEeSIXeSEVENeEIGHTeNINEdNUMBER TEN",
    "bCIRCLED SANS-SERIF DIGIT ONEeTWOeTHREEeFOUReFIVEeSIXeSEVENeEIGHTeNINEdNUMBER TEN",
    "bNEGATIVE CIRCLED SANS-SERIF DIGIT ONEfTWOfTHREEfFOURfFIVEfSIXfSEVENfEIGHTfNINEeNUMBER TEN",
    "aHEAVY WIDE-HEADED RIGHTWARDS ARROWbPLUS SIGNbMINUS:1bDIVISION:1bSOUTH EAST ARROW",
    "bRIGHTWARDS:1bNORTH EAST:1aDRAFTING POINT RIGHTWARDS:1aHEAVY ROUND-TIPPED:2",
    "aTRIANGLE-HEADED:2aHEAVY:3aDASHED:3aHEAVY:4aBLACK:2",
    "aTHREE-D TOP-LIGHTED RIGHTWARDS ARROWHEADbBOTTOM-LIGHTED:2aBLACK:2",
    "aHEAVY BLACK CURVED DOWNWARDS AND RIGHTWARDS ARROWdUPWARDS:3aSQUAT BLACK:2",
    "aHEAVY CONCAVE-POINTED:3aRIGHT-SHADED WHITE:2aLEFT-SHADED:3aBACK-TILTED SHADOWED:3",
    "aFRONT-TILTED:4aHEAVY LOWER RIGHT-SHADOWED:3bUPPER:4aNOTCHED LOWER:4aCURLY LOOP",
    "aNOTCHED UPPER RIGHT-SHADOWED WHITE RIGHTWARDS ARROWaCIRCLED HEAVY:3aWHITE-FEATHERED:2",
    "aBLACK-FEATHERED SOUTH EAST:1bRIGHTWARDS:1bNORTH EAST:1aHEAVY BLACK-FEATHERED SOUTH:2",
    "cRIGHTWARDS:1cNORTH EAST:1aTEARDROP-BARBED RIGHTWARDS:1aHEAVY TEARDROP-SHANKED:2",
    "aWEDGE-TAILED:2aHEAVY:3aOPEN-OUTLINED:2aDOUBLE CURLY LOOPaTHREE DIMENSIONAL ANGLE",
    "aWHITE TRIANGLE CONTAINING SMALL WHITE TRIANGLEaPERPENDICULARaOPEN SUBSETbSUPERSET",
    "aLEFT S-SHAPED BAG DELIMITERaRIGHT:3aOR WITH DOT INSIDEaREVERSE SOLIDUS PRECEDING SUBSET",
    "aSUPERSET PRECEDING SOLIDUSaVERTICAL BAR WITH HORIZONTAL STROKE",
    "aMATHEMATICAL RISING DIAGONALaLONG DIVISIONaMATHEMATICAL FALLING DIAGONAL",
    "aSQUARED LOGICAL ANDcORaWHITE DIAMOND WITH CENTRED DOTaAND WITH:1",
    "aELEMENT OF OPENING UPWARDSaLOWER RIGHT CORNER WITH DOTaUPPER LEFT:3aLEFT OUTER JOIN",
    "aRIGHT:2aFULL:2aLARGE UP TACKbDOWN:1aLEFT AND RIGHT DOUBLE TURNSTILEdTACKbMULTIMAP",
    "aLONG RIGHT TACKbLEFT:1aUP TACK WITH CIRCLE ABOVEaLOZENGE DIVIDED BY HORIZONTAL RULE",
    "aWHITE CONCAVE-SIDED DIAMONDdWITH LEFTWARDS TICKeRIGHTWARDS:1bSQUARE WITH LEFTWARDS:1",
    "dRIGHTWARDS:1aMATHEMATICAL LEFT WHITE SQUARE BRACKETbRIGHT:3bLEFT ANGLE:1bRIGHT:2",
    "bLEFT DOUBLE:2bRIGHT:3bLEFT WHITE TORTOISE SHELL:1bRIGHT:4bLEFT FLATTENED PARENTHESIS",
    "bRIGHT:2aUPWARDS QUADRUPLE ARROWaDOWNWARDS:2aANTICLOCKWISE GAPPED CIRCLE:1aCLOCKWISE:3",
    "aRIGHT ARROW WITH CIRCLED PLUSaLONG LEFTWARDS ARROWbRIGHTWARDS:1bLEFT RIGHT:1",
    "bLEFTWARDS DOUBLE:1bRIGHTWARDS:2bLEFT RIGHT:2bLEFTWARDS ARROW FROM BARbRIGHTWARDS:3",
    "bLEFTWARDS DOUBLE:3bRIGHTWARDS:4cSQUIGGLE ARROWaBRAILLE PATTERN BLANKcDOTS-1+cDOTS-12",
    "cDOTS-3cDOTS-13cDOTS-23cDOTS-123cDOTS-4cDOTS-14cDOTS-24cDOTS-124cDOTS-34cDOTS-134cDOTS-234",
    "cDOTS-1234cDOTS-5cDOTS-15cDOTS-25cDOTS-125cDOTS-35cDOTS-135cDOTS-235cDOTS-1235cDOTS-45",
    "cDOTS-145cDOTS-245cDOTS-1245cDOTS-345cDOTS-1345cDOTS-2345cDOTS-12345cDOTS-6cDOTS-16cDOTS-26",
    "cDOTS-126cDOTS-36cDOTS-136cDOTS-236cDOTS-1236cDOTS-46cDOTS-146cDOTS-246cDOTS-1246cDOTS-346",
    "cDOTS-1346cDOTS-2346cDOTS-12346cDOTS-56cDOTS-156cDOTS-256cDOTS-1256cDOTS-356cDOTS-1356",
    "cDOTS-2356cDOTS-12356cDOTS-456cDOTS-1456cDOTS-2456cDOTS-12456cDOTS-3456cDOTS-13456",
    "cDOTS-23456cDOTS-123456cDOTS-7cDOTS-17cDOTS-27cDOTS-127cDOTS-37cDOTS-137cDOTS-237cDOTS-1237",
    "cDOTS-47cDOTS-147cDOTS-247cDOTS-1247cDOTS-347cDOTS-1347cDOTS-2347cDOTS-12347cDOTS-57",
    "cDOTS-157cDOTS-257cDOTS-1257cDOTS-357cDOTS-1357cDOTS-2357cDOTS-12357cDOTS-457cDOTS-1457",
    "cDOTS-2457cDOTS-12457cDOTS-3457cDOTS-13457cDOTS-23457cDOTS-123457cDOTS-67cDOTS-167cDOTS-267",
    "cDOTS-1267cDOTS-367cDOTS-1367cDOTS-2367cDOTS-12367cDOTS-467cDOTS-1467cDOTS-2467cDOTS-12467",
    "cDOTS-3467cDOTS-13467cDOTS-23467cDOTS-123467cDOTS-567cDOTS-1567cDOTS-2567cDOTS-12567",
    "cDOTS-3567cDOTS-13567cDOTS-23567cDOTS-123567cDOTS-4567cDOTS-14567cDOTS-24567cDOTS-124567",
    "cDOTS-34567cDOTS-134567cDOTS-234567cDOTS-1234567cDOTS-8cDOTS-18cDOTS-28cDOTS-128cDOTS-38",
    "cDOTS-138cDOTS-238cDOTS-1238cDOTS-48cDOTS-148cDOTS-248cDOTS-1248cDOTS-348cDOTS-1348",
    "cDOTS-2348cDOTS-12348cDOTS-58cDOTS-158cDOTS-258cDOTS-1258cDOTS-358cDOTS-1358cDOTS-2358",
    "cDOTS-12358cDOTS-458cDOTS-1458cDOTS-2458cDOTS-12458cDOTS-3458cDOTS-13458cDOTS-23458",
    "cDOTS-123458cDOTS-68cDOTS-168cDOTS-268cDOTS-1268cDOTS-368cDOTS-1368cDOTS-2368cDOTS-12368",
    "cDOTS-468cDOTS-1468cDOTS-2468cDOTS-12468cDOTS-3468cDOTS-13468cDOTS-23468cDOTS-123468",
    "cDOTS-568cDOTS-1568cDOTS-2568cDOTS-12568cDOTS-3568cDOTS-13568cDOTS-23568cDOTS-123568",
    "cDOTS-4568cDOTS-14568cDOTS-24568cDOTS-124568cDOTS-34568cDOTS-134568cDOTS-234568",
    "cDOTS-1234568cDOTS-78cDOTS-178cDOTS-278cDOTS-1278cDOTS-378cDOTS-1378cDOTS-2378cDOTS-12378",
    "cDOTS-478cDOTS-1478cDOTS-2478cDOTS-12478cDOTS-3478cDOTS-13478cDOTS-23478cDOTS-123478",
    "cDOTS-578cDOTS-1578cDOTS-2578cDOTS-12578cDOTS-3578cDOTS-13578cDOTS-23578cDOTS-123578",
    "cDOTS-4578cDOTS-14578cDOTS-24578cDOTS-124578cDOTS-34578cDOTS-134578cDOTS-234578",
    "cDOTS-1234578cDOTS-678cDOTS-1678cDOTS-2678cDOTS-12678cDOTS-3678cDOTS-13678cDOTS-23678",
    "cDOTS-123678cDOTS-4678cDOTS-14678cDOTS-24678cDOTS-124678cDOTS-34678cDOTS-134678cDOTS-234678",
    "cDOTS-1234678cDOTS-5678cDOTS-15678cDOTS-25678cDOTS-125678cDOTS-35678cDOTS-135678",
    "cDOTS-235678cDOTS-1235678cDOTS-45678cDOTS-145678cDOTS-245678cDOTS-1245678cDOTS-345678",
    "cDOTS-1345678cDOTS-2345678cDOTS-12345678aRIGHTWARDS TWO-HEADED ARROW WITH VERTICAL STROKE",
    "eDOUBLE:2aLEFTWARDS DOUBLE ARROW WITH:2aRIGHTWARDS:5aLEFT RIGHT:5",
    "aRIGHTWARDS TWO-HEADED ARROW FROM BARaLEFTWARDS DOUBLE:3aRIGHTWARDS:4",
    "aDOWNWARDS ARROW WITH HORIZONTAL STROKEaUPWARDS:4bTRIPLE ARROWaDOWNWARDS:2",
    "aLEFTWARDS DOUBLE DASH:1aRIGHTWARDS:3aLEFTWARDS TRIPLE:2aRIGHTWARDS:3bTWO-HEADED:3",
    "bARROW WITH DOTTED STEMaUPWARDS ARROW TO BARaDOWNWARDS:3",
    "aRIGHTWARDS ARROW WITH TAIL WITH VERTICAL STROKEfDOUBLE:2bTWO-HEADED ARROW WITH TAIL",
    "fWITH VERTICAL STROKEgDOUBLE:2aLEFTWARDS ARROW-TAILaRIGHTWARDS:1aLEFTWARDS DOUBLE:1",
    "aRIGHTWARDS:2aLEFTWARDS ARROW TO BLACK DIAMONDaRIGHTWARDS:4aLEFTWARDS ARROW FROM BAR:3",
    "aRIGHTWARDS:6aNORTH WEST AND SOUTH EAST ARROWbEAST AND SOUTH WEST:1bWEST ARROW WITH HOOK",
    "bEAST:3aSOUTH:4bWEST:3aNORTH WEST ARROW AND NORTH EAST ARROWbEAST ARROW AND SOUTH:2",
    "aSOUTH EAST ARROW AND SOUTH WEST:1bWEST ARROW AND NORTH:2",
    "aRISING DIAGONAL CROSSING FALLING DIAGONALaFALLING DIAGONAL CROSSING RISING:1",
    "aSOUTH EAST ARROW CROSSING NORTH EAST ARROWaNORTH EAST ARROW CROSSING SOUTH:2",
    "aFALLING DIAGONAL CROSSING NORTH:2aRISING DIAGONAL CROSSING SOUTH:2",
    "aNORTH EAST ARROW CROSSING NORTH WEST:1bWEST ARROW CROSSING NORTH EAST:1",
    "aWAVE ARROW POINTING DIRECTLY RIGHTaARROW POINTING RIGHTWARDS THEN CURVING UPWARDS",
    "fDOWNWARDScDOWNWARDS THEN CURVING LEFTWARDSfRIGHTWARDSaRIGHT-SIDE ARC CLOCKWISE ARROW",
    "aLEFT-SIDE ARC ANTICLOCKWISE:1aTOP:3aBOTTOM:3aTOP ARC CLOCKWISE ARROW WITH MINUS",
    "cANTICLOCKWISE ARROW WITH PLUSaLOWER RIGHT SEMICIRCULAR CLOCKWISE ARROW",
    "bLEFT SEMICIRCULAR ANTICLOCKWISE:1aANTICLOCKWISE CLOSED CIRCLE:1aCLOCKWISE:3",
    "aRIGHTWARDS ARROW ABOVE SHORT LEFTWARDS:1aLEFTWARDS ARROW ABOVE SHORT RIGHTWARDS:1",
    "aSHORT RIGHTWARDS ARROW ABOVE LEFTWARDS:1aRIGHTWARDS ARROW WITH PLUS BELOWaLEFTWARDS:4",
    "aRIGHTWARDS ARROW THROUGH XaLEFT RIGHT ARROW THROUGH SMALL CIRCLE",
    "aUPWARDS TWO-HEADED ARROW FROM:2aLEFT BARB UP RIGHT BARB DOWN HARPOONcDOWN RIGHT BARB UP:1",
    "aUP BARB RIGHT DOWN BARB LEFT:1cLEFT DOWN BARB RIGHT:1aLEFT BARB UP RIGHT BARB UP:1",
    "aUP BARB RIGHT DOWN BARB RIGHT:1aLEFT BARB DOWN RIGHT BARB DOWN:1",
    "aUP BARB LEFT DOWN BARB LEFT:1aLEFTWARDS HARPOON WITH BARB UP TO BARaRIGHTWARDS:6",
    "aUPWARDS HARPOON WITH BARB RIGHT:2aDOWNWARDS:6aLEFTWARDS HARPOON WITH BARB DOWN:2",
    "aRIGHTWARDS:6aUPWARDS HARPOON WITH BARB LEFT:2aDOWNWARDS:6",
    "aLEFTWARDS HARPOON WITH BARB UP FROM:1aRIGHTWARDS:6aUPWARDS HARPOON WITH BARB RIGHT:2",
    "aDOWNWARDS:6aLEFTWARDS HARPOON WITH BARB DOWN:2aRIGHTWARDS:6",
    "aUPWARDS HARPOON WITH BARB LEFT:2aDOWNWARDS:6",
    "aLEFTWARDS HARPOON WITH BARB UP ABOVE LEFTWARDS HARPOON WITH BARB DOWN",
    "aUPWARDS HARPOON WITH BARB LEFT BESIDE UPWARDS HARPOON WITH BARB RIGHT",
    "aRIGHTWARDS HARPOON WITH BARB UP ABOVE RIGHTWARDS HARPOON WITH BARB DOWN",
    "aDOWNWARDS HARPOON WITH BARB LEFT BESIDE DOWNWARDS HARPOON WITH BARB RIGHT",
    "aLEFTWARDS HARPOON WITH BARB UP ABOVE RIGHTWARDS HARPOON WITH BARB UP",
    "eDOWN ABOVE RIGHTWARDS HARPOON WITH BARB DOWN",
    "aRIGHTWARDS HARPOON WITH BARB UP ABOVE LEFTWARDS HARPOON WITH BARB UP",
    "eDOWN ABOVE LEFTWARDS HARPOON WITH BARB DOWNaLEFTWARDS HARPOON WITH BARB UP ABOVE LONG DASH",
    "eDOWN BELOW:2aRIGHTWARDS HARPOON WITH BARB UP ABOVE:2eDOWN BELOW:2",
    "aUPWARDS HARPOON WITH BARB LEFT BESIDE DOWNWARDS HARPOON WITH BARB RIGHT",
    "aDOWNWARDS HARPOON WITH BARB LEFT BESIDE UPWARDS:4aRIGHT DOUBLE ARROW WITH ROUNDED HEAD",
    "aEQUALS SIGN ABOVE RIGHTWARDS ARROWaTILDE OPERATOR:3aLEFTWARDS ARROW ABOVE TILDE OPERATOR",
    "aRIGHTWARDS:4dALMOST EQUAL TOaLESS-THAN ABOVE LEFTWARDS ARROW",
    "aLEFTWARDS ARROW THROUGH LESS-THANaGREATER-THAN ABOVE RIGHTWARDS ARROWaSUBSET:3",
    "aLEFTWARDS ARROW THROUGH SUBSETaSUPERSET ABOVE LEFTWARDS ARROWaLEFT FISH TAILaRIGHT:2aUP:2",
    "aDOWN:2aTRIPLE VERTICAL BAR DELIMITERaZ NOTATION SPOTcTYPE COLONaLEFT WHITE CURLY BRACKET",
    "aRIGHT:3aLEFT WHITE PARENTHESISaRIGHT:2aZ NOTATION LEFT IMAGE BRACKETcRIGHT:2",
    "cLEFT BINDING:1cRIGHT:2aLEFT SQUARE BRACKET WITH UNDERBARaRIGHT:4",
    "aLEFT SQUARE BRACKET WITH TICK IN TOP CORNERaRIGHT SQUARE BRACKET WITH TICK IN BOTTOM:1",
    "aLEFT:7aRIGHT SQUARE BRACKET WITH TICK IN TOP:1aLEFT ANGLE BRACKET WITH DOTaRIGHT:4",
    "aLEFT ARC LESS-THAN BRACKETaRIGHT ARC GREATER-THAN:1aDOUBLE LEFT:3bRIGHT ARC LESS-THAN:1",
    "aLEFT BLACK TORTOISE SHELL:1aRIGHT:4aDOTTED FENCEaVERTICAL ZIGZAG LINE",
    "aMEASURED ANGLE OPENING LEFTaRIGHT ANGLE VARIANT WITH SQUAREaMEASURED RIGHT ANGLE WITH DOT",
    "aANGLE WITH S INSIDEaACUTE ANGLEaSPHERICAL ANGLE OPENING LEFTdUPaTURNED ANGLEaREVERSED:1",
    "aANGLE WITH UNDERBARaREVERSED:3aOBLIQUE ANGLE OPENING UPdDOWN",
    "aMEASURED ANGLE WITH OPEN ARM ENDING IN ARROW POINTING UP AND RIGHTlLEFTjDOWN AND RIGHT",
    "lLEFTjRIGHT AND UPjLEFT:2jRIGHT AND DOWNjLEFT:2aREVERSED EMPTY SETaEMPTY SET WITH OVERBAR",
    "dSMALL CIRCLE ABOVEdRIGHT ARROW:1dLEFT:2aCIRCLE WITH HORIZONTAL BARaCIRCLED VERTICAL:1",
    "bPARALLELbREVERSE SOLIDUSbPERPENDICULAR",
    "aCIRCLE DIVIDED BY HORIZONTAL BAR AND TOP HALF DIVIDED BY VERTICAL BARbWITH SUPERIMPOSED X",
    "aCIRCLED ANTICLOCKWISE-ROTATED DIVISION SIGNaUP ARROW THROUGH CIRCLEaCIRCLED WHITE BULLET",
    "b:1bLESS-THANbGREATER-THANaCIRCLE WITH SMALL CIRCLE TO THE RIGHTcTWO HORIZONTAL STROKES:3",
    "aSQUARED RISING DIAGONAL SLASHbFALLING:2bASTERISKbSMALL CIRCLEbSQUAREaTWO JOINED SQUARES",
    "aTRIANGLE WITH DOT ABOVEcUNDERBARaS IN TRIANGLEaTRIANGLE WITH SERIFS AT BOTTOM",
    "aRIGHT TRIANGLE ABOVE LEFT TRIANGLEaLEFT TRIANGLE BESIDE VERTICAL BAR",
    "aVERTICAL BAR BESIDE RIGHT TRIANGLEaBOWTIE WITH LEFT HALF BLACKcRIGHT:2aBLACK BOWTIE",
    "aTIMES WITH LEFT HALF BLACKcRIGHT:2aWHITE HOURGLASSaBLACK:1aLEFT WIGGLY FENCEaRIGHT:2",
    "aLEFT DOUBLE:2aRIGHT:3aINCOMPLETE INFINITYaTIE OVER:1aINFINITY NEGATED WITH VERTICAL BAR",
    "aDOUBLE-ENDED MULTIMAPaSQUARE WITH CONTOURED OUTLINEaINCREASES ASaSHUFFLE PRODUCT",
    "aEQUALS SIGN AND SLANTED PARALLELfWITH TILDE ABOVEaIDENTICAL TO AND SLANTED PARALLEL",
    "aGLEICH STARKaTHERMODYNAMICaDOWN-POINTING TRIANGLE WITH LEFT HALF BLACKdRIGHT:2",
    "aBLACK DIAMOND WITH DOWN ARROWbLOZENGEaWHITE CIRCLE WITH DOWN ARROWaBLACK:4",
    "aERROR-BARRED WHITE SQUAREbBLACK:1bWHITE DIAMONDbBLACK:1bWHITE CIRCLEbBLACK:1aRULE-DELAYED",
    "aREVERSE SOLIDUS OPERATORaSOLIDUS WITH OVERBARaREVERSE SOLIDUS WITH HORIZONTAL STROKE",
    "aBIG SOLIDUSbREVERSE:1aDOUBLE PLUSaTRIPLE:1aLEFT-POINTING CURVED ANGLE BRACKET",
    "aRIGHT-POINTING:3aTINYaMINYaN-ARY CIRCLED DOT OPERATORcPLUS:1cTIMES:1",
    "bUNION OPERATOR WITH DOTePLUSbSQUARE INTERSECTION OPERATORcUNION:1aTWO LOGICAL AND:1cOR:1",
    "aN-ARY TIMES:1aMODULO TWO SUMaSUMMATION WITH INTEGRALaQUADRUPLE INTEGRAL OPERATOR",
    "aFINITE PART INTEGRALaINTEGRAL WITH DOUBLE STROKEbAVERAGE WITH SLASHaCIRCULATION FUNCTION",
    "aANTICLOCKWISE INTEGRATIONaLINE INTEGRATION WITH RECTANGULAR PATH AROUND POLE",
    "dSEMICIRCULAR:3cNOT INCLUDING THE:1aINTEGRAL AROUND A POINT OPERATORaQUATERNION INTEGRAL:1",
    "aINTEGRAL WITH LEFTWARDS ARROW WITH HOOKcTIMES SIGNcINTERSECTIONcUNIONcOVERBARcUNDERBAR",
    "aJOINaLARGE LEFT TRIANGLE OPERATORaZ NOTATION SCHEMA COMPOSITIONdPIPINGdPROJECTION",
    "aPLUS SIGN WITH SMALL CIRCLE ABOVEdCIRCUMFLEX ACCENT:1dTILDE:1dDOT BELOWdTILDE:1",
    "dSUBSCRIPT TWOdBLACK TRIANGLEaMINUS SIGN WITH COMMA ABOVEdDOT BELOWdFALLING DOTSdRISING:1",
    "aPLUS SIGN IN LEFT HALF CIRCLEdRIGHT:2aVECTOR OR CROSS PRODUCT",
    "aMULTIPLICATION SIGN WITH DOT ABOVEdUNDERBARaSEMIDIRECT PRODUCT WITH BOTTOM CLOSED",
    "aSMASH PRODUCTaMULTIPLICATION SIGN IN LEFT HALF CIRCLEdRIGHT:2",
    "aCIRCLED MULTIPLICATION SIGN WITH CIRCUMFLEX ACCENTaMULTIPLICATION SIGN IN DOUBLE CIRCLE",
    "aCIRCLED DIVISION SIGNaPLUS SIGN IN TRIANGLEaMINUS:3aMULTIPLICATION:3aINTERIOR PRODUCT",
    "aRIGHTHAND:2aZ NOTATION RELATIONAL COMPOSITIONaAMALGAMATION OR COPRODUCT",
    "aINTERSECTION WITH DOTaUNION WITH MINUS SIGNcOVERBARaINTERSECTION:2cLOGICAL AND",
    "aUNION WITH LOGICAL ORbABOVE INTERSECTIONaINTERSECTION ABOVE UNION",
    "aUNION ABOVE BAR ABOVE INTERSECTIONaINTERSECTION ABOVE BAR ABOVE UNION",
    "aUNION BESIDE AND JOINED WITH:1aINTERSECTION BESIDE AND JOINED WITH INTERSECTION",
    "aCLOSED UNION WITH SERIFSbINTERSECTION:2aDOUBLE SQUARE INTERSECTIONcUNION",
    "aCLOSED UNION WITH SERIFS AND SMASH PRODUCTaLOGICAL AND WITH DOT ABOVEbOR:3",
    "aDOUBLE LOGICAL ANDcORaTWO INTERSECTING LOGICAL ANDdORaSLOPING LARGE:1cAND",
    "aLOGICAL OR OVERLAPPING LOGICAL:1bAND WITH MIDDLE STEMbOR:3bAND WITH HORIZONTAL DASHbOR:3",
    "bAND WITH DOUBLE OVERBARdUNDERBARdDOUBLE:1aSMALL VEE WITH:1aLOGICAL OR WITH DOUBLE OVERBAR",
    "eUNDERBARaZ NOTATION DOMAIN ANTIRESTRICTIONcRANGE:1aEQUALS SIGN WITH DOT BELOW",
    "aIDENTICAL WITH DOT ABOVEaTRIPLE HORIZONTAL BAR WITH DOUBLE VERTICAL STROKEeTRIPLE:2",
    "aTILDE OPERATOR WITH DOT ABOVEdRISING DOTSaSIMILAR MINUS SIMILARaCONGRUENT WITH DOT ABOVE",
    "aEQUALS WITH ASTERISKaALMOST EQUAL TO WITH CIRCUMFLEX ACCENT",
    "aAPPROXIMATELY EQUAL OR EQUAL TOaEQUALS SIGN ABOVE PLUS SIGNaPLUS SIGN ABOVE EQUALS:1",
    "aEQUALS SIGN ABOVE TILDE OPERATORaDOUBLE COLON EQUALaTWO CONSECUTIVE EQUALS SIGNSaTHREE:3",
    "aEQUALS SIGN WITH TWO DOTS ABOVE AND TWO DOTS BELOWaEQUIVALENT WITH FOUR DOTS ABOVE",
    "aLESS-THAN WITH CIRCLE INSIDEaGREATER-THAN:3aLESS-THAN WITH QUESTION MARK ABOVE",
    "aGREATER-THAN:4aLESS-THAN OR SLANTED EQUAL TOaGREATER-THAN:4",
    "aLESS-THAN OR SLANTED EQUAL TO WITH DOT INSIDEaGREATER-THAN:7",
    "aLESS-THAN OR SLANTED EQUAL TO WITH DOT ABOVEaGREATER-THAN:7",
    "aLESS-THAN OR SLANTED EQUAL TO WITH DOT ABOVE RIGHT",
    "aGREATER-THAN OR SLANTED EQUAL TO WITH DOT ABOVE LEFTaLESS-THAN OR APPROXIMATE",
    "aGREATER-THAN:2aLESS-THAN AND SINGLE-LINE NOT EQUAL TOaGREATER-THAN:5",
    "aLESS-THAN AND NOT APPROXIMATEaGREATER-THAN:3",
    "aLESS-THAN ABOVE DOUBLE-LINE EQUAL ABOVE GREATER-THAN",
    "aGREATER-THAN ABOVE DOUBLE-LINE EQUAL ABOVE LESS-THANaLESS-THAN ABOVE SIMILAR OR EQUAL",
    "aGREATER-THAN:4aLESS-THAN ABOVE SIMILAR ABOVE GREATER-THAN",
    "aGREATER-THAN ABOVE SIMILAR ABOVE LESS-THAN",
    "aLESS-THAN ABOVE GREATER-THAN ABOVE DOUBLE-LINE EQUALaGREATER-THAN ABOVE LESS-THAN:3",
    "aLESS-THAN ABOVE SLANTED EQUAL ABOVE GREATER-THAN ABOVE SLANTED:1",
    "aGREATER-THAN ABOVE SLANTED EQUAL ABOVE LESS-THAN:3aSLANTED EQUAL TO OR LESS-THAN",
    "eGREATER-THANeLESS-THAN WITH DOT INSIDEeGREATER-THAN:3aDOUBLE-LINE EQUAL TO OR LESS-THAN",
    "eGREATER-THANbSLANTED EQUAL TO OR LESS-THANfGREATER-THANaSIMILAR OR LESS-THANcGREATER-THAN",
    "bABOVE LESS-THAN ABOVE EQUALS SIGNcGREATER-THAN:3aDOUBLE NESTED LESS-THANcGREATER-THAN",
    "cLESS-THAN WITH UNDERBARaGREATER-THAN OVERLAPPING LESS-THANbBESIDE:1",
    "aLESS-THAN CLOSED BY CURVEaGREATER-THAN:3aLESS-THAN CLOSED BY CURVE ABOVE SLANTED EQUAL",
    "aGREATER-THAN:6aSMALLER THANaLARGER:1aSMALLER THAN OR EQUAL TOaLARGER:4",
    "aEQUALS SIGN WITH BUMPY ABOVEaPRECEDES ABOVE SINGLE-LINE EQUALS SIGNaSUCCEEDS:4",
    "aPRECEDES ABOVE SINGLE-LINE NOT EQUAL TOaSUCCEEDS:5aPRECEDES ABOVE EQUALS SIGNaSUCCEEDS:3",
    "aPRECEDES ABOVE NOT EQUAL TOaSUCCEEDS:4aPRECEDES ABOVE ALMOST:2aSUCCEEDS:4",
    "aPRECEDES ABOVE NOT:3aSUCCEEDS:5aDOUBLE PRECEDESbSUCCEEDSaSUBSET WITH DOTaSUPERSET:2",
    "aSUBSET WITH PLUS SIGN BELOWaSUPERSET:4aSUBSET WITH MULTIPLICATION:2aSUPERSET:4",
    "aSUBSET OF OR EQUAL TO WITH DOT ABOVEaSUPERSET:7aSUBSET OF ABOVE EQUALS SIGNaSUPERSET:4",
    "aSUBSET OF ABOVE TILDE OPERATORaSUPERSET:4aSUBSET OF ABOVE ALMOST EQUAL TOaSUPERSET:5",
    "aSUBSET OF ABOVE NOT:2aSUPERSET:5aSQUARE LEFT OPEN BOX OPERATORbRIGHT:3aCLOSED SUBSET",
    "bSUPERSETbSUBSET OR EQUAL TObSUPERSET:3aSUBSET ABOVE SUPERSETaSUPERSET ABOVE SUBSET",
    "aSUBSET:2aSUPERSET ABOVE SUPERSETbBESIDE SUBSETcAND JOINED BY DASH WITH:1",
    "aELEMENT OF OPENING DOWNWARDSaPITCHFORK WITH TEE TOPaTRANSVERSAL INTERSECTIONaFORKING",
    "aNONFORKINGaSHORT LEFT TACKbDOWN:1bUP:1aPERPENDICULAR WITH S",
    "aVERTICAL BAR TRIPLE RIGHT TURNSTILEaDOUBLE VERTICAL BAR LEFT:1aVERTICAL BAR DOUBLE:2",
    "aDOUBLE:5aLONG DASH FROM LEFT MEMBER OF DOUBLE VERTICALaSHORT DOWN TACK WITH OVERBAR",
    "bUP TACK WITH UNDERBARdABOVE SHORT DOWN TACKaDOUBLE:2bUP:1bSTROKE NOT SIGNaREVERSED:4",
    "aDOES NOT DIVIDE WITH REVERSED NEGATION SLASHaVERTICAL LINE WITH CIRCLE ABOVEeBELOW",
    "aDOWN TACK:3aPARALLEL WITH HORIZONTAL STROKEcTILDE OPERATOR",
    "aTRIPLE VERTICAL BAR BINARY RELATIONdWITH HORIZONTAL STROKEbCOLON OPERATORbNESTED LESS-THAN",
    "cGREATER-THANaDOUBLE-LINE SLANTED LESS-THAN OR EQUAL TOcGREATER-THAN:3",
    "aTRIPLE SOLIDUS BINARY RELATIONaLARGE TRIPLE VERTICAL BAR OPERATORaDOUBLE SOLIDUS:1",
    "aWHITE VERTICAL BARaN-ARY:3aNORTH EAST WHITE ARROWbWEST:2aSOUTH EAST:2bWEST:2aLEFT RIGHT:2",
    "aLEFTWARDS BLACK:1aUPWARDS:2aDOWNWARDS:2aNORTH EAST:2bWEST:2aSOUTH EAST:2bWEST:2",
    "aLEFT RIGHT:2aUP DOWN:2aRIGHTWARDS ARROW WITH TIP DOWNWARDSeUPWARDS",
    "aLEFTWARDS ARROW WITH TIP DOWNWARDSeUPWARDSaSQUARE WITH TOP HALF BLACKcBOTTOM:2",
    "cUPPER RIGHT DIAGONAL:2cLOWER LEFT:3aDIAMOND WITH LEFT:2cRIGHT:2cTOP:2cBOTTOM:2",
    "aDOTTED SQUAREaBLACK LARGE:1aWHITE:2aBLACK VERY SMALL:1aWHITE:3aBLACK PENTAGONaWHITE:1",
    "bHEXAGONaBLACK:1aHORIZONTAL:2aBLACK LARGE CIRCLEbMEDIUM DIAMONDaWHITE:2",
    "aBLACK MEDIUM LOZENGEaWHITE:2aBLACK SMALL DIAMONDcLOZENGEaWHITE:2aBLACK HORIZONTAL ELLIPSE",
    "aWHITE:2aBLACK VERTICAL:1aWHITE:2aLEFT ARROW WITH SMALL CIRCLEaTHREE LEFTWARDS ARROWS",
    "aLEFT ARROW WITH CIRCLED PLUSaLONG LEFTWARDS SQUIGGLE ARROW",
    "aLEFTWARDS TWO-HEADED ARROW WITH VERTICAL STROKEeDOUBLE:2dFROM BARcTRIPLE DASH ARROW",
    "bARROW WITH DOTTED STEMdTAIL WITH VERTICAL STROKEfDOUBLE:2bTWO-HEADED ARROW WITH TAIL",
    "fWITH VERTICAL STROKEgDOUBLE:2bARROW THROUGH XaWAVE ARROW POINTING DIRECTLY LEFT",
    "aEQUALS SIGN ABOVE LEFTWARDS ARROWaREVERSE TILDE OPERATOR:3",
    "aLEFTWARDS ARROW ABOVE REVERSE ALMOST EQUAL TOaRIGHTWARDS ARROW THROUGH GREATER-THAN",
    "dSUPERSETaLEFTWARDS QUADRUPLE ARROWaRIGHTWARDS:2aREVERSE TILDE OPERATOR ABOVE RIGHTWARDS:1",
    "aRIGHTWARDS ARROW ABOVE REVERSE ALMOST EQUAL TOaTILDE OPERATOR ABOVE LEFTWARDS ARROW",
    "aLEFTWARDS ARROW ABOVE ALMOST EQUAL TOdREVERSE TILDE OPERATORaRIGHTWARDS:5",
    "aDOWNWARDS TRIANGLE-HEADED ZIGZAG ARROWaSHORT SLANTED NORTH:1bBACKSLANTED SOUTH:1",
    "aWHITE MEDIUM STARaBLACK SMALL:1aWHITE:2aBLACK RIGHT-POINTING PENTAGONaWHITE:2",
    "aHEAVY LARGE CIRCLEbOVAL WITH OVAL INSIDEbCIRCLE WITH CIRCLE:1cbCIRCLED SALTIRE",
    "aSLANTED NORTH ARROW WITH HOOKED HEADaBACKSLANTED SOUTH ARROW WITH HOOKED TAIL",
    "aSLANTED NORTH ARROW WITH HORIZONTAL:1aBACKSLANTED SOUTH:4",
    "aBENT ARROW POINTING DOWNWARDS THEN NORTH EASTaSHORT:7aLEFTWARDS TRIANGLE-HEADED ARROW",
    "aUPWARDS:2aRIGHTWARDS:2aDOWNWARDS:2aLEFT RIGHT:2aUP DOWN:2aNORTH WEST:2bEAST:2aSOUTH:3",
    "bWEST:2aLEFTWARDS TRIANGLE-HEADED DASHED:1aUPWARDS:3aRIGHTWARDS:3aDOWNWARDS:3",
    "aCLOCKWISE TRIANGLE-HEADED OPEN CIRCLE:1aANTICLOCKWISE:4",
    "aLEFTWARDS TRIANGLE-HEADED ARROW TO BARaUPWARDS:4aRIGHTWARDS:4aDOWNWARDS:4..aNORTH WEST:4",
    "bEAST:4aSOUTH:5bWEST:4aLEFTWARDS TRIANGLE-HEADED ARROW WITH DOUBLE HORIZONTAL STROKE",
    "aUPWARDS:6aRIGHTWARDS:6aDOWNWARDS:6aHORIZONTAL TAB KEYaVERTICAL:2",
    "aLEFTWARDS TRIANGLE-HEADED ARROW OVER RIGHTWARDS TRIANGLE-HEADED ARROW",
    "aUPWARDS TRIANGLE-HEADED ARROW LEFTWARDS OF DOWNWARDS:2",
    "aRIGHTWARDS TRIANGLE-HEADED ARROW OVER LEFTWARDS:2",
    "aDOWNWARDS TRIANGLE-HEADED ARROW LEFTWARDS OF UPWARDS:2",
    "aLEFTWARDS TRIANGLE-HEADED PAIRED ARROWSaUPWARDS:3aRIGHTWARDS:3aDOWNWARDS:3",
    "aLEFTWARDS BLACK CIRCLED WHITE ARROWaUPWARDS:4aRIGHTWARDS:4aDOWNWARDS:4",
    "aANTICLOCKWISE TRIANGLE-HEADED RIGHT U-SHAPED:1cBOTTOM:2cLEFT:2cTOP:2aRETURN LEFTbRIGHT",
    "aNEWLINE LEFTbRIGHTaFOUR CORNER ARROWS CIRCLING ANTICLOCKWISEaRIGHTWARDS BLACK ARROW.",
    "aSYMBOL FOR TYPE A ELECTRONICSaTHREE-D TOP-LIGHTED LEFTWARDS EQUILATERAL ARROWHEAD",
    "bRIGHT-LIGHTED UPWARDS:2bTOP-LIGHTED RIGHTWARDS:2bLEFT-LIGHTED DOWNWARDS:2",
    "aBLACK LEFTWARDS:2bUPWARDS:2bRIGHTWARDS:2bDOWNWARDS:2",
    "aDOWNWARDS TRIANGLE-HEADED ARROW WITH LONG TIP LEFTWARDSgRIGHTWARDS",
    "aUPWARDS TRIANGLE-HEADED ARROW WITH LONG TIP LEFTWARDSgRIGHTWARDS",
    "aLEFTWARDS TRIANGLE-HEADED ARROW WITH LONG TIP UPWARDSaRIGHTWARDS:6",
    "aLEFTWARDS TRIANGLE-HEADED ARROW WITH LONG TIP DOWNWARDSaRIGHTWARDS:6",
    "aBLACK CURVED DOWNWARDS AND LEFTWARDS ARROWeRIGHTWARDS:1cUPWARDS AND LEFTWARDS:1",
    "eRIGHTWARDS:1cLEFTWARDS AND UPWARDS:1cRIGHTWARDS:3cLEFTWARDS AND DOWNWARDS:1cRIGHTWARDS:3",
    "aRIBBON ARROW DOWN LEFTdRIGHTcUP LEFTdRIGHTcLEFT UPcRIGHT:1cLEFT DOWNcRIGHT:1",
    "aUPWARDS WHITE ARROW FROM BAR WITH HORIZONTAL BARaUP ARROWHEAD IN A RECTANGLE BOX",
    "aOVERLAPPING WHITE SQUAREScAND BLACK:1b:2aBALLOT BOX WITH LIGHT XaCIRCLED XbBOLD X",
    "aBLACK SQUARE CENTREDbDIAMOND:1aTURNED BLACK PENTAGONaHORIZONTAL BLACK OCTAGONa:2",
    "bMEDIUM UP-POINTING TRIANGLE CENTREDcDOWN-POINTING:2cLEFT-POINTING:2cRIGHT-POINTING:2",
    "aNEPTUNE FORM TWOaTOP HALF BLACK CIRCLEaBOTTOM:3aLIGHT FOUR POINTED BLACK CUSPaROTATED:5",
    "aWHITE FOUR POINTED:1aROTATED:4aSQUARE POSITION INDICATORaUNCERTAINTY SIGNaGROUP MARK",
    "aPLUTO FORM TWOcTHREEcFOURcFIVEaTRANSPLUTOaPROSERPINAaASTRAEAaHYGIEAaPHOLUSaNESSUS",
    "aWHITE MOON SELENAaBLACK DIAMOND ON CROSSaTRUE LIGHT MOON ARTAaCUPIDOaHADESaZEUSaKRONOS",
    "aAPOLLONaADMETOSaVULCANUSaPOSEIDONaLEFT HALF BLACK STARaRIGHT:3aSTAR WITH LEFT HALF BLACK",
    "cRIGHT:2aLEFTWARDS TWO-HEADED ARROW WITH TRIANGLE ARROWHEADSaUPWARDS:5aRIGHTWARDS:5",
    "aDOWNWARDS:5aERIS FORM ONEcTWOaSEDNAaRUSSIAN ASTROLOGICAL SYMBOL VIGINTILEdNOVILEdQUINTILE",
    "dBINOVILEdSENTAGONdTREDECILEaEQUALS SIGN WITH INFINITY BELOWaUNITED SYMBOLaSEPARATED:1",
    "aDOUBLED:1aPASSED:1aREVERSED RIGHT ANGLEaHELLSCHREIBER PAUSE SYMBOL"])]

end HttpGateway.Text.CharName
